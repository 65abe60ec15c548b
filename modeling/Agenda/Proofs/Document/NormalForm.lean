import Agenda.Proofs.Document.BlockText
import Agenda.Proofs.Timetable.Window

/-!
# Reading gives normal forms

Many texts are read as one and the same event: digits of other scripts, keys that come twice, odd
blanks, brackets inside of names, kinds in capitals. Whatever was accepted, the event is in normal
form (`Event.isNormal_of_ofBlockText`), so the block that is written from it is read as that event
again (`Event.ofBlockText_blockText_of_ofBlockText`). The normal form is gathered part by part: what
a header holds, what a description is, and what every field makes of its value.
-/

namespace Agenda

/-! ### Headers -/

namespace Header

variable {header : Header}

/-- The setting of a line is trimmed, and its key has no colon. -/
theorem isPlain_of_settingOf? {line : Text} {setting : Text × Text} (hline : '\n' ∉ line)
    (h : settingOf? line = some setting) : IsPlain setting := by
  obtain ⟨⟨key, value⟩, hcut, rfl⟩ := Option.map_eq_some_iff.mp h
  obtain ⟨hparts, hcolon⟩ := Text.eq_append_of_cutAt? hcut
  rw [hparts, List.mem_append, List.mem_cons, not_or, not_or] at hline
  exact {
    isKey := ⟨fun hmem => hcolon ((Text.trim_infix key).subset hmem), Text.trim_trim key,
      fun hmem => hline.1 ((Text.trim_infix key).subset hmem)⟩
    value_trim := Text.trim_trim value
    value_line := fun hmem => hline.2.2 ((Text.trim_infix value).subset hmem) }

theorem isPlain_of_ofLines {lines : List Text} (hlines : ∀ line ∈ lines, '\n' ∉ line)
    (h : ofLines lines = .ok header) : ∀ setting ∈ header, IsPlain setting := by
  induction lines generalizing header with
  | nil =>
    obtain rfl : [] = header := Except.ok.inj h
    exact nofun
  | cons line rest ih =>
    have hrest : ∀ other ∈ rest, '\n' ∉ other :=
      fun other hother => hlines other (List.mem_cons_of_mem _ hother)
    rw [ofLines] at h
    split at h
    · exact ih hrest h
    · cases hsetting : settingOf? line with
      | none =>
        rw [hsetting] at h
        cases h
      | some setting =>
        cases hothers : ofLines rest with
        | error fault =>
          rw [hsetting, hothers] at h
          cases h
        | ok others =>
          rw [hsetting, hothers] at h
          obtain rfl : setting :: others = header := Except.ok.inj h
          rw [List.forall_mem_cons]
          exact ⟨isPlain_of_settingOf? (hlines line List.mem_cons_self) hsetting,
            ih hrest hothers⟩

/-- **Every setting that is read could have been written.** -/
theorem isPlain_of_ofText {t : Text} (h : ofText t = .ok header) :
    ∀ setting ∈ header, IsPlain setting :=
  isPlain_of_ofLines (fun _ => Text.newline_not_mem_of_mem_lines) h

/-- The value of a key stands in one of the settings. -/
theorem mem_of_get? {key value : Text} (h : get? header key = some value) :
    (key, value) ∈ header := by
  induction header with
  | nil => cases h
  | cons setting rest ih =>
    obtain ⟨k, v⟩ := setting
    rw [get?] at h
    cases hlater : get? rest key with
    | some later =>
      rw [hlater] at h ih
      exact List.mem_cons_of_mem _ (ih h)
    | none =>
      rw [hlater] at h
      by_cases hkey : k = key
      · obtain rfl : v = value := Option.some.inj ((if_pos hkey).symm.trans h)
        rw [hkey]
        exact List.mem_cons_self
      · exact absurd ((if_neg hkey).symm.trans h) (Option.some_ne_none value).symm

end Header

/-! ### Descriptions -/

namespace Sections

/-- What lies before and behind the line of spaces at which a text is cut. -/
theorem eq_append_of_cutAtParagraph? {t before after : Text}
    (h : cutAtParagraph? t = some (before, after)) :
    ∃ blanks : Text, t = before ++ '\n' :: (blanks ++ '\n' :: after) := by
  induction t generalizing before with
  | nil => cases h
  | cons c rest ih =>
    by_cases hend : c = '\n' ∧ (rest.dropWhile Text.isSpace).head? = some '\n'
    · obtain ⟨rfl, hhead⟩ := hend
      obtain ⟨behind, hbehind⟩ := List.head?_eq_some_iff.mp hhead
      simp only [cutAtParagraph?, hbehind, Option.some.injEq, Prod.mk.injEq] at h
      obtain ⟨rfl, rfl⟩ := h
      refine ⟨rest.takeWhile Text.isSpace, ?_⟩
      rw [List.nil_append, ← hbehind, List.takeWhile_append_dropWhile]
    · rw [cutAtParagraph?_cons (not_and_or.mp hend)] at h
      obtain ⟨⟨inner, behind⟩, hcut, heq⟩ := Option.map_eq_some_iff.mp h
      obtain ⟨rfl, rfl⟩ := Prod.mk.inj heq
      obtain ⟨blanks, hblanks⟩ := ih hcut
      exact ⟨blanks, by rw [hblanks, List.cons_append]⟩

theorem prefix_of_cutAtParagraph? {t before after : Text}
    (h : cutAtParagraph? t = some (before, after)) : before <+: t := by
  obtain ⟨blanks, rfl⟩ := eq_append_of_cutAtParagraph? h
  exact List.prefix_append ..

theorem suffix_of_cutAtParagraph? {t before after : Text}
    (h : cutAtParagraph? t = some (before, after)) : after <:+ t := by
  obtain ⟨blanks, rfl⟩ := eq_append_of_cutAtParagraph? h
  have hbehind : after <:+ blanks ++ '\n' :: after :=
    (List.suffix_cons '\n' after).trans (List.suffix_append blanks _)
  exact hbehind.trans ((List.suffix_cons '\n' _).trans (List.suffix_append before _))

/-- A description is trimmed, not empty, and a piece of the text. -/
theorem description_spec {t description : Text} (h : (ofText t).description = some description) :
    description ≠ [] ∧ Text.trim description = description ∧
      description <:+: Text.dropReturns t := by
  simp only [ofText] at h
  cases hcut : cutAtParagraph? (Text.trim (Text.dropReturns t)) with
  | none =>
    rw [hcut] at h
    cases h
  | some parts =>
    obtain ⟨before, after⟩ := parts
    simp only [hcut, descriptionOf] at h
    split at h
    · cases h
    · rename_i hne
      obtain rfl : Text.trim after = description := Option.some.inj h
      refine ⟨fun hnil => hne (by rw [hnil]; rfl), Text.trim_trim after, ?_⟩
      exact (Text.trim_infix after).trans
        ((suffix_of_cutAtParagraph? hcut).isInfix.trans (Text.trim_infix _))

end Sections

/-! ### Fields -/

namespace Event

variable {header : Header} {event : Event}

theorem readTitle_spec (h : ∀ setting ∈ header, Header.IsPlain setting) :
    readTitle header ≠ [] ∧ Text.trim (readTitle header) = readTitle header ∧
      '\n' ∉ readTitle header := by
  rw [readTitle]
  split
  · exact ⟨by decide, by decide, by decide⟩
  · exact ⟨by decide, by decide, by decide⟩
  · rename_i title hne htitle
    have hplain := h _ (Header.mem_of_get? htitle)
    exact ⟨fun hnil => hne (by rw [hnil]), hplain.value_trim, hplain.value_line⟩

theorem readSpeakers_spec (h : ∀ setting ∈ header, Header.IsPlain setting) :
    ∀ name ∈ readSpeakers header, IsName name ∧ '\n' ∉ name := by
  intro name hname
  obtain ⟨hisName, hsubset⟩ := mem_speakersOf hname
  refine ⟨hisName, fun hmem => ?_⟩
  cases hvalue : header.get? "speakers" with
  | none =>
    rw [hvalue] at hsubset
    cases hsubset hmem
  | some value =>
    rw [hvalue] at hsubset
    exact (h _ (Header.mem_of_get? hvalue)).value_line (hsubset hmem)

theorem duration_le_of_durationOf? {value : Text} {minutes : Nat}
    (h : durationOf? value = some minutes) : minutes ≤ maxDuration := by
  rw [durationOf?] at h
  split at h
  · rename_i hvalue
    rw [← Option.some.inj h]
    exact hvalue.2.2.2
  · cases h

variable [languages : Languages]

theorem isHeld_of_readLanguage {language : Language} (h : readLanguage header = some language) :
    language.IsHeld := by
  obtain ⟨code, _, hcode⟩ := Option.bind_eq_some_iff.mp h
  exact Language.isHeld_of_ofCode? hcode

/-- **What an event that was read is made of**: every field comes from its own key. -/
theorem ofHeader_eq_ok {description : Option Text} (h : ofHeader header description = .ok event) :
    readKind header = .ok event.kind ∧ readStart header = .ok event.start ∧
      ((header.get? "duration").bind durationOf? = some event.duration) ∧
      event.title = readTitle header ∧ event.language = readLanguage header ∧
      event.speakers = readSpeakers header ∧ event.description = description := by
  cases hkind : readKind header with
  | error fault =>
    simp only [ofHeader, hkind] at h
    cases h
  | ok kind =>
    cases hstart : readStart header with
    | error fault =>
      simp only [ofHeader, hkind, hstart] at h
      cases h
    | ok start =>
      simp only [ofHeader, hkind, hstart, bind, Except.bind] at h
      split at h
      · cases h
      · rename_i value hvalue
        split at h
        · cases h
        · rename_i minutes hminutes
          split at h
          · cases h
            rw [hvalue]
            exact ⟨rfl, rfl, hminutes, rfl, rfl, rfl, rfl⟩
          · cases h

theorem isNormal_of_ofHeader {description : Option Text}
    (hheader : ∀ setting ∈ header, Header.IsPlain setting)
    (hdescription : ∀ text ∈ description,
      text ≠ [] ∧ Text.trim text = text ∧ ¬ ['\r', '\n'] <:+: text)
    (hlaw : languages.IsLawful) (h : ofHeader header description = .ok event) :
    event.IsNormal := by
  obtain ⟨_, _, hduration, htitle, hlanguage, hspeakers, hkept⟩ := ofHeader_eq_ok h
  obtain ⟨hne, htrim, hline⟩ := readTitle_spec hheader
  obtain ⟨value, _, hminutes⟩ := Option.bind_eq_some_iff.mp hduration
  rw [← htitle] at hne htrim hline
  rw [← hkept] at hdescription
  exact {
    title_ne_nil := hne
    title_trim := htrim
    title_line := hline
    duration_le := duration_le_of_durationOf? hminutes
    language_known := fun language hmem => (isHeld_of_readLanguage (hlanguage ▸ hmem)).isKnown hlaw
    speakers_names := hspeakers ▸ readSpeakers_spec hheader
    description_ne_nil := fun text htext => (hdescription text htext).1
    description_trim := fun text htext => (hdescription text htext).2.1
    description_returns := fun text htext => (hdescription text htext).2.2 }

/-! ### Blocks -/

variable {t : Text}

/-- **Whatever is accepted, the event is in normal form.** A text with returns is left out, since
dropping those in front of line feeds may bring others to the same place. -/
theorem isNormal_of_ofBlockText (hlaw : languages.IsLawful) (hreturn : '\r' ∉ t)
    (h : ofBlockText t = .ok event) : event.IsNormal := by
  have hreturns : Text.dropReturns t = t := Text.dropReturns_of_return_not_mem hreturn
  cases hheader : Header.ofText (Sections.ofText t).header with
  | error fault =>
    simp only [ofBlockText, hheader] at h
    cases h
  | ok header =>
    simp only [ofBlockText, hheader] at h
    refine isNormal_of_ofHeader (Header.isPlain_of_ofText hheader) ?_ hlaw h
    intro text htext
    obtain ⟨hne, htrim, hpart⟩ := Sections.description_spec htext
    rw [hreturns] at hpart
    exact ⟨hne, htrim, fun hpair => hreturn (hpart.subset (hpair.subset List.mem_cons_self))⟩

/-- **The block written from an event that was read is read as that event again**, whatever table of
languages there is, as long as the codes in it are those that it is asked for. And the event is in
normal form: the title is one trimmed line, the description is trimmed, the speakers are trimmed
names without commas and brackets, and the event ends within the calendar. -/
theorem ofBlockText_blockText_of_ofBlockText (hlaw : languages.IsLawful) (t : Text) (event : Event)
    (hreturn : '\r' ∉ t) (h : ofBlockText t = .ok event) :
    ofBlockText event.blockText = .ok event ∧
      (event.title ≠ [] ∧ Text.trim event.title = event.title ∧ '\n' ∉ event.title) ∧
      (∀ description ∈ event.description,
        description ≠ [] ∧ Text.trim description = description) ∧
      (∀ name ∈ event.speakers, name ≠ [] ∧ Text.trim name = name ∧
        ',' ∉ name ∧ '[' ∉ name ∧ ']' ∉ name) ∧
      event.duration ≤ 2 ^ 32 - 1 ∧
      event.start.later? event.duration = some event.finish := by
  have hnormal := isNormal_of_ofBlockText hlaw hreturn h
  refine ⟨ofBlockText_blockText hnormal,
    ⟨hnormal.title_ne_nil, hnormal.title_trim, hnormal.title_line⟩, ?_, ?_, hnormal.duration_le,
    event.later?_start⟩
  · intro description hmem
    exact ⟨hnormal.description_ne_nil _ hmem, hnormal.description_trim _ hmem⟩
  · intro name hmem
    obtain ⟨hne, htrim, hcomma, hopen, hclose⟩ := (hnormal.speakers_names name hmem).1
    exact ⟨hne, htrim, hcomma, hopen, hclose⟩

end Event

namespace Event

attribute [local instance] Languages.french

/-- A block with almost nothing in normal form: a Kelvin sign in its kind, an empty title before the
one that counts, digits of two scripts, brackets inside of names, a delimiter in its description. -/
def looseBlock : Text :=
  "\u00a0Type: x\n type : Tal\u212a\ntitle:\ntitle:\t A: b \nspeakers: ,[Zo\u00e9],, [A]nna[ ,\n" ++
    "date: \u0662\u0660\u0662\u0664-2- 9\u2003 9:05\nlang: FR\nduration: 0045\n \t\n---\n  # x \n"

def looseEvent : Event where
  kind := .talk
  title := "A: b"
  start := ⟨⟨738924, by decide⟩, 545, by decide⟩
  duration := 45
  description := some "---\n  # x".toList
  language := some .french
  speakers := ["Zo\u00e9", "Anna"]
  end_lt := by decide

theorem ofBlockText_blockText_of_ofBlockText_loose :
    Languages.french.IsLawful ∧ '\r' ∉ looseBlock ∧ ofBlockText looseBlock = .ok looseEvent ∧
      ofBlockText looseEvent.blockText = .ok looseEvent := by
  have hreturn : '\r' ∉ looseBlock := by decide +kernel
  have hread : ofBlockText looseBlock = .ok looseEvent := by decide +kernel
  exact ⟨Languages.isLawful_french, hreturn, hread,
    (ofBlockText_blockText_of_ofBlockText Languages.isLawful_french looseBlock looseEvent hreturn
      hread).1⟩

end Event

end Agenda
