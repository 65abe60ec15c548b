import Agenda.Document.Entry
import Agenda.Proofs.Document.Header
import Agenda.Proofs.Language.Code
import Agenda.Proofs.Timetable.Window

/-!
# The rules of a block

What a block of text is judged by, rule after rule: its lines, the kind, the date, the duration, the
end. The rules are stated on the lines of the header alone: a line says the value of a key with a
colon between them, and of several lines the last one counts (`Header.Says`). The first rule that is
broken decides the fault, and without one the event is what the lines say (`Event.Judged`). Reading
a block gives just that judgement (`Event.ofBlockText_eq_iff`).
-/

namespace Agenda

/-! ### What the lines of a header say -/

namespace Header

/-- Whether a line has no place in a header: it is not blank, and there is no colon in it. -/
def IsMalformed (line : Text) : Prop := Text.allBlank line = false ∧ ':' ∉ line

instance : DecidablePred IsMalformed := fun _ => inferInstanceAs (Decidable (_ ∧ _))

/-- Whether a line sets a key to a value: they stand before and behind its first colon, with or
without blanks around them. -/
def Sets (line key value : Text) : Prop :=
  ∃ before behind, line = before ++ ':' :: behind ∧ ':' ∉ before ∧ Text.trim before = key ∧
    Text.trim behind = value

/-- What some lines say of a key: nothing, or the value of the last one that sets it. -/
inductive Says (lines : List Text) (key : Text) : Option Text → Prop
  | nothing (h : ∀ line ∈ lines, ∀ value, ¬ Sets line key value) : Says lines key none
  | last {earlier later : List Text} {line value : Text} (h : lines = earlier ++ line :: later)
      (hline : Sets line key value) (hlater : ∀ other ∈ later, ∀ value, ¬ Sets other key value) :
      Says lines key (some value)

variable {lines : List Text} {line key value : Text} {header : Header}

theorem settingOf?_eq_some_iff : settingOf? line = some (key, value) ↔ Sets line key value := by
  constructor
  · intro h
    obtain ⟨⟨before, behind⟩, hcut, heq⟩ := Option.map_eq_some_iff.mp h
    obtain ⟨hline, hcolon⟩ := Text.eq_append_of_cutAt? hcut
    obtain ⟨hkey, hvalue⟩ := Prod.mk.inj heq
    exact ⟨before, behind, hline, hcolon, hkey, hvalue⟩
  · rintro ⟨before, behind, rfl, hcolon, rfl, rfl⟩
    rw [settingOf?, cutAt?_append hcolon]
    rfl

theorem settingOf?_eq_none_iff : settingOf? line = none ↔ ':' ∉ line := by
  rw [settingOf?, Option.map_eq_none_iff, Text.cutAt?_eq_none]

/-- A blank line sets nothing. -/
theorem not_sets_of_allBlank (h : Text.allBlank line = true) : ¬ Sets line key value := by
  rintro ⟨before, behind, rfl, -⟩
  have hcolon := List.all_eq_true.mp h ':' (List.mem_append_right _ List.mem_cons_self)
  exact absurd hcolon (by decide)

/-! ### Lines one by one -/

theorem ofLines_cons_of_allBlank (h : Text.allBlank line = true) :
    ofLines (line :: lines) = ofLines lines := by
  rw [ofLines, if_pos h]

theorem ofLines_cons_of_isMalformed (h : IsMalformed line) :
    ofLines (line :: lines) = .error (.malformedField line) := by
  rw [ofLines, h.1, if_neg Bool.false_ne_true, settingOf?_eq_none_iff.mpr h.2]

theorem ofLines_cons_of_sets (h : Sets line key value) :
    ofLines (line :: lines) = (ofLines lines).map ((key, value) :: ·) := by
  have hblank : ¬ Text.allBlank line = true := fun hblank => not_sets_of_allBlank hblank h
  rw [ofLines, if_neg hblank, settingOf?_eq_some_iff.mpr h]

/-- A line is blank, malformed, or sets a key. -/
theorem line_cases (line : Text) :
    Text.allBlank line = true ∨ IsMalformed line ∨ ∃ key value, Sets line key value := by
  cases hblank : Text.allBlank line with
  | true => exact .inl rfl
  | false =>
    cases hsetting : settingOf? line with
    | none => exact .inr (.inl ⟨hblank, settingOf?_eq_none_iff.mp hsetting⟩)
    | some setting =>
      exact .inr (.inr ⟨setting.1, setting.2, settingOf?_eq_some_iff.mp hsetting⟩)

theorem Sets.unique {key' value' : Text} (h : Sets line key value) (h' : Sets line key' value') :
    key' = key ∧ value' = value := by
  rw [← settingOf?_eq_some_iff] at h h'
  exact Prod.mk.inj (Option.some.inj (h'.symm.trans h))

/-- Lines without a malformed one make a header. -/
theorem exists_ofLines (h : ∀ line ∈ lines, ¬ IsMalformed line) :
    ∃ header, ofLines lines = .ok header := by
  induction lines with
  | nil => exact ⟨[], rfl⟩
  | cons line rest ih =>
    obtain ⟨header, hheader⟩ := ih fun other hother => h other (.tail _ hother)
    obtain hblank | hmalformed | ⟨key, value, hsets⟩ := line_cases line
    · exact ⟨header, by rw [ofLines_cons_of_allBlank hblank, hheader]⟩
    · exact absurd hmalformed (h line List.mem_cons_self)
    · exact ⟨(key, value) :: header, by rw [ofLines_cons_of_sets hsets, hheader]; rfl⟩

/-- The first malformed line is the fault of a header. -/
theorem ofLines_of_isMalformed {before behind : List Text}
    (hbefore : ∀ other ∈ before, ¬ IsMalformed other) (hline : IsMalformed line) :
    ofLines (before ++ line :: behind) = .error (.malformedField line) := by
  induction before with
  | nil => exact ofLines_cons_of_isMalformed hline
  | cons first rest ih =>
    have hrest := ih fun other hother => hbefore other (.tail _ hother)
    rw [List.cons_append]
    obtain hblank | hmalformed | ⟨key, value, hsets⟩ := line_cases first
    · rw [ofLines_cons_of_allBlank hblank, hrest]
    · exact absurd hmalformed (hbefore first List.mem_cons_self)
    · rw [ofLines_cons_of_sets hsets, hrest]
      rfl

/-- Some lines have no malformed one among them, or there is a first one. -/
theorem forall_or_exists_first (lines : List Text) :
    (∀ line ∈ lines, ¬ IsMalformed line) ∨ ∃ before line behind, lines = before ++ line :: behind ∧
      (∀ other ∈ before, ¬ IsMalformed other) ∧ IsMalformed line := by
  induction lines with
  | nil => exact .inl nofun
  | cons line rest ih =>
    by_cases hline : IsMalformed line
    · exact .inr ⟨[], line, rest, rfl, nofun, hline⟩
    · obtain hrest | ⟨before, other, behind, rfl, hbefore, hother⟩ := ih
      · exact .inl (List.forall_mem_cons.mpr ⟨hline, hrest⟩)
      · exact .inr ⟨line :: before, other, behind, rfl,
          List.forall_mem_cons.mpr ⟨hline, hbefore⟩, hother⟩

theorem Says.cons {value? : Option Text} (h : Says lines key value?)
    (hline : value? = none → ∀ value, ¬ Sets line key value) : Says (line :: lines) key value? := by
  cases h with
  | nothing hlines => exact .nothing (List.forall_mem_cons.mpr ⟨hline rfl, hlines⟩)
  | last hlines hother hlater =>
    subst hlines
    exact .last (List.cons_append ..).symm hother hlater

/-- Two lines are the same one if each is the last that sets a key. -/
theorem last_unique {line' value' : Text} {earlier later earlier' later' : List Text}
    (h : earlier ++ line :: later = earlier' ++ line' :: later') (hline : Sets line key value)
    (hline' : Sets line' key value') (hlater : ∀ other ∈ later, ∀ value, ¬ Sets other key value)
    (hlater' : ∀ other ∈ later', ∀ value, ¬ Sets other key value) : line' = line := by
  induction earlier generalizing earlier' with
  | nil =>
    cases earlier' with
    | nil => exact (List.cons.inj h).1.symm
    | cons first rest =>
      obtain ⟨-, rfl⟩ := List.cons.inj h
      exact absurd hline' (hlater line' (List.mem_append_right _ List.mem_cons_self) value')
  | cons first rest ih =>
    cases earlier' with
    | nil =>
      obtain ⟨-, rfl⟩ := List.cons.inj h
      exact absurd hline (hlater' line (List.mem_append_right _ List.mem_cons_self) value)
    | cons first' rest' => exact ih (List.cons.inj h).2

theorem Says.unique {value? value?' : Option Text} (h : Says lines key value?)
    (h' : Says lines key value?') : value?' = value? := by
  cases h with
  | nothing hnone =>
    cases h' with
    | nothing _ => rfl
    | last hlines hline _ =>
      subst hlines
      exact absurd hline (hnone _ (List.mem_append_right _ List.mem_cons_self) _)
  | last hlines hline hlater =>
    subst hlines
    cases h' with
    | nothing hnone => exact absurd hline (hnone _ (List.mem_append_right _ List.mem_cons_self) _)
    | last hlines' hline' hlater' =>
      obtain rfl := last_unique hlines' hline hline' hlater hlater'
      rw [(hline.unique hline').2]

/-- What the settings of some lines hold for a key is what the lines say of it. -/
theorem says_get? (h : ofLines lines = .ok header) (key : Text) :
    Says lines key (header.get? key) := by
  induction lines generalizing header with
  | nil =>
    obtain rfl := Except.ok.inj h
    exact .nothing (List.forall_mem_nil _)
  | cons line rest ih =>
    obtain hblank | hmalformed | ⟨k, value, hsets⟩ := line_cases line
    · rw [ofLines_cons_of_allBlank hblank] at h
      exact (ih h).cons fun _ _ => not_sets_of_allBlank hblank
    · rw [ofLines_cons_of_isMalformed hmalformed] at h
      cases h
    · rw [ofLines_cons_of_sets hsets] at h
      cases hrest : ofLines rest with
      | error fault =>
        rw [hrest] at h
        cases h
      | ok others =>
        rw [hrest] at h
        obtain rfl := Except.ok.inj h
        have hothers := ih hrest
        rw [get?]
        cases hvalue : others.get? key with
        | some later =>
          rw [hvalue] at hothers
          exact hothers.cons fun hnone => absurd hnone (Option.some_ne_none later)
        | none =>
          rw [hvalue] at hothers
          cases hothers with
          | nothing hnone =>
            dsimp only
            split
            · rename_i hkey
              subst hkey
              exact .last (List.nil_append _).symm hsets hnone
            · rename_i hkey
              exact .nothing (List.forall_mem_cons.mpr
                ⟨fun value' hsets' => hkey (hsets.unique hsets').1.symm, hnone⟩)

theorem get?_eq_iff_says (h : ofLines lines = .ok header) {value? : Option Text} :
    header.get? key = value? ↔ Says lines key value? := by
  constructor
  · rintro rfl
    exact says_get? h key
  · intro hsays
    exact hsays.unique (says_get? h key)

end Header

namespace EventKind

theorem ofToken?_eq_some_iff {token : Text} {kind : EventKind} :
    ofToken? token = some kind ↔ Text.lower (Text.trim token) = kind.token := by
  rw [ofToken?]
  constructor
  · intro h
    have hfound := List.find?_some h
    exact (beq_iff_eq.mp hfound).symm
  · intro h
    rw [h]
    cases kind <;> decide

theorem ofToken?_eq_none_iff {token : Text} :
    ofToken? token = none ↔
      ∀ kind : EventKind, Text.lower (Text.trim token) ≠ kind.token := by
  simp only [Option.eq_none_iff_forall_ne_some, ne_eq, ofToken?_eq_some_iff]

end EventKind

/-! ### The judgement -/

namespace Event

variable {lines : List Text} {header : Header} {description : Option Text}

/-- Whether lines make an event of a kind: by the token of the kind, with blanks around it or not
and in letters of either case, or by saying nothing if it is a talk. -/
def TellsKind (lines : List Text) (kind : EventKind) : Prop :=
  (Header.Says lines "type" none ∧ kind = .talk) ∨
    ∃ token, Header.Says lines "type" (some token) ∧ Text.lower (Text.trim token) = kind.token

/-- Whether lines let an event start at a moment. -/
def TellsStart (lines : List Text) (start : Moment) : Prop :=
  ∃ value, Header.Says lines "date" (some value) ∧ Moment.ofText? value = some start

/-- Whether a text is a number of minutes: at most 4300 digits `0` to `9` and at least one, worth at
most what 32 bits hold. -/
def IsDuration (value : Text) (minutes : Nat) : Prop :=
  value ≠ [] ∧ (∀ c ∈ value, '0' ≤ c ∧ c ≤ '9') ∧ value.length ≤ 4300 ∧
    Text.natOfDigits value = minutes ∧ minutes ≤ 4294967295

/-- Whether lines make an event last a number of minutes. -/
def TellsDuration (lines : List Text) (minutes : Nat) : Prop :=
  ∃ value, Header.Says lines "duration" (some value) ∧ IsDuration value minutes

/-- Whether lines give a title to an event; an empty one is as good as none. -/
def TellsTitle (lines : List Text) (title : Text) : Prop :=
  ((Header.Says lines "title" none ∨ Header.Says lines "title" (some [])) ∧
      title = "(no title)".toList) ∨
    title ≠ [] ∧ Header.Says lines "title" (some title)

/-- Whether lines give a language to an event: the one that the table holds for a code of two
letters, with blanks around it or not and in letters of either case. -/
def TellsLanguage [Languages] (lines : List Text) (language : Language) : Prop :=
  ∃ code, Header.Says lines "lang" (some code) ∧ (Text.trim code).length = 2 ∧
    (∀ c ∈ Text.trim code, ('a' ≤ c ∧ c ≤ 'z') ∨ ('A' ≤ c ∧ c ≤ 'Z')) ∧
    Languages.find? (Text.lower (Text.trim code)) = some language

/-- Whether lines give some speakers to an event. -/
def TellsSpeakers (lines : List Text) (speakers : List Text) : Prop :=
  (Header.Says lines "speakers" none ∧ speakers = []) ∨
    ∃ value, Header.Says lines "speakers" (some value) ∧ speakers = speakersOf value

/-- What a header of some lines and a description are judged to be. The constructors stand in the
order of the rules, and each says that the rules before its own are kept. -/
inductive Judged [Languages] (lines : List Text) (description : Option Text) : Except Fault Event → Prop
  | malformed {before behind : List Text} {line : Text} (hlines : lines = before ++ line :: behind)
      (hbefore : ∀ other ∈ before, ¬ Header.IsMalformed other) (h : Header.IsMalformed line) :
      Judged lines description (.error (.malformedField line))
  | unknownKind {token : Text} (hlines : ∀ line ∈ lines, ¬ Header.IsMalformed line)
      (htype : Header.Says lines "type" (some token))
      (h : ∀ kind : EventKind, Text.lower (Text.trim token) ≠ kind.token) :
      Judged lines description (.error (.unknownKind token))
  | noDate {kind : EventKind} (hlines : ∀ line ∈ lines, ¬ Header.IsMalformed line)
      (hkind : TellsKind lines kind) (h : Header.Says lines "date" none) :
      Judged lines description (.error (.missingSetting "date"))
  | badDate {kind : EventKind} {value : Text} (hlines : ∀ line ∈ lines, ¬ Header.IsMalformed line)
      (hkind : TellsKind lines kind) (hdate : Header.Says lines "date" (some value))
      (h : Moment.ofText? value = none) :
      Judged lines description (.error (.badDate value "%Y-%m-%d %H:%M"))
  | noDuration {kind : EventKind} {start : Moment}
      (hlines : ∀ line ∈ lines, ¬ Header.IsMalformed line) (hkind : TellsKind lines kind)
      (hstart : TellsStart lines start) (h : Header.Says lines "duration" none) :
      Judged lines description (.error (.missingSetting "duration"))
  | notNumber {kind : EventKind} {start : Moment} {value : Text}
      (hlines : ∀ line ∈ lines, ¬ Header.IsMalformed line) (hkind : TellsKind lines kind)
      (hstart : TellsStart lines start) (hduration : Header.Says lines "duration" (some value))
      (h : ∀ minutes, ¬ IsDuration value minutes) :
      Judged lines description (.error (.badDuration value (some .notNumber)))
  | pastCalendar {kind : EventKind} {start : Moment} {value : Text} {minutes : Nat}
      (hlines : ∀ line ∈ lines, ¬ Header.IsMalformed line) (hkind : TellsKind lines kind)
      (hstart : TellsStart lines start) (hduration : Header.Says lines "duration" (some value))
      (hminutes : IsDuration value minutes) (h : start.later? minutes = none) :
      Judged lines description (.error (.badDuration value (some .pastCalendar)))
  | accepted {event : Event} (hlines : ∀ line ∈ lines, ¬ Header.IsMalformed line)
      (hkind : TellsKind lines event.kind) (hstart : TellsStart lines event.start)
      (hduration : TellsDuration lines event.duration) (htitle : TellsTitle lines event.title)
      (hlanguage : ∀ language, event.language = some language ↔ TellsLanguage lines language)
      (hspeakers : TellsSpeakers lines event.speakers)
      (hdescription : event.description = description) :
      Judged lines description (.ok event)

/-! ### Fields that are read -/

theorem durationOf?_eq_some_iff {value : Text} {minutes : Nat} :
    durationOf? value = some minutes ↔ IsDuration value minutes := by
  have hdigits : value.all Text.isDigit = true ↔ ∀ c ∈ value, '0' ≤ c ∧ c ≤ '9' := by
    simp only [List.all_eq_true, Text.isDigit, Bool.and_eq_true, decide_eq_true_eq]
  rw [durationOf?, IsDuration, ← hdigits, ← maxDigits, ← maxDuration]
  split
  · rename_i h
    obtain ⟨hne, hall, hlength, hle⟩ := h
    refine ⟨?_, ?_⟩
    · rintro ⟨⟩
      exact ⟨hne, hall, hlength, rfl, hle⟩
    · rintro ⟨-, -, -, rfl, -⟩
      rfl
  · rename_i h
    refine iff_of_false (Option.some_ne_none minutes).symm ?_
    rintro ⟨hne, hall, hlength, rfl, hle⟩
    exact h ⟨hne, hall, hlength, hle⟩

theorem durationOf?_eq_none_iff {value : Text} :
    durationOf? value = none ↔ ∀ minutes, ¬ IsDuration value minutes := by
  simp only [Option.eq_none_iff_forall_ne_some, ne_eq, durationOf?_eq_some_iff]

section

variable (h : Header.ofLines lines = .ok header)
include h

theorem says_iff {key : Text} {value? : Option Text} :
    Header.Says lines key value? ↔ header.get? key = value? :=
  (Header.get?_eq_iff_says h).symm

theorem readKind_eq_ok_iff {kind : EventKind} :
    readKind header = .ok kind ↔ TellsKind lines kind := by
  simp only [TellsKind, says_iff h, ← EventKind.ofToken?_eq_some_iff, readKind]
  cases header.get? "type" with
  | none => simp [eq_comm]
  | some token => cases hkind : EventKind.ofToken? token <;> simp [hkind]

theorem readKind_eq_error_iff {fault : Fault} :
    readKind header = .error fault ↔ ∃ token, Header.Says lines "type" (some token) ∧
      (∀ kind : EventKind, Text.lower (Text.trim token) ≠ kind.token) ∧
      fault = .unknownKind token := by
  simp only [says_iff h, ← EventKind.ofToken?_eq_none_iff, readKind]
  cases header.get? "type" with
  | none => simp
  | some token => cases hkind : EventKind.ofToken? token <;> simp [hkind, eq_comm]

theorem readStart_eq_ok_iff {start : Moment} :
    readStart header = .ok start ↔ TellsStart lines start := by
  simp only [TellsStart, says_iff h, readStart]
  cases header.get? "date" with
  | none => simp
  | some value => cases hstart : Moment.ofText? value <;> simp [hstart]

theorem readStart_eq_error_iff {fault : Fault} :
    readStart header = .error fault ↔
      (Header.Says lines "date" none ∧ fault = .missingSetting "date") ∨
      ∃ value, Header.Says lines "date" (some value) ∧ Moment.ofText? value = none ∧
        fault = .badDate value "%Y-%m-%d %H:%M" := by
  simp only [says_iff h, readStart]
  cases header.get? "date" with
  | none =>
    simp only [Except.error.injEq, true_and, reduceCtorEq, false_and, exists_false, or_false]
    exact eq_comm
  | some value =>
    cases hstart : Moment.ofText? value with
    | none =>
      simp only [Except.error.injEq, reduceCtorEq, false_and, false_or, Option.some.injEq,
        exists_eq_left', hstart, true_and]
      exact eq_comm
    | some start => simp [hstart]

theorem readTitle_eq_iff {title : Text} : readTitle header = title ↔ TellsTitle lines title := by
  constructor
  · rintro rfl
    rw [readTitle]
    split
    · rename_i hnone
      exact .inl ⟨.inl ((says_iff h).mpr hnone), rfl⟩
    · rename_i hempty
      exact .inl ⟨.inr ((says_iff h).mpr hempty), rfl⟩
    · rename_i title hne htitle
      exact .inr ⟨fun hnil => hne (by rw [hnil]), (says_iff h).mpr htitle⟩
  · rintro (⟨hnone | hempty, htitle⟩ | ⟨hne, htitle⟩)
    · rw [readTitle, (says_iff h).mp hnone, htitle]
      rfl
    · rw [readTitle, (says_iff h).mp hempty, htitle]
      rfl
    · obtain ⟨c, rest, rfl⟩ := List.exists_cons_of_ne_nil hne
      rw [readTitle, (says_iff h).mp htitle]

theorem readLanguage_eq_some_iff [Languages] {language : Language} :
    readLanguage header = some language ↔ TellsLanguage lines language := by
  simp only [TellsLanguage, says_iff h, readLanguage, Option.bind_eq_some_iff,
    Language.ofCode?_eq_some_iff, Language.isLetter, Bool.or_eq_true, Bool.and_eq_true,
    decide_eq_true_eq]

theorem readSpeakers_eq_iff {speakers : List Text} :
    readSpeakers header = speakers ↔ TellsSpeakers lines speakers := by
  have hnil : speakersOf [] = [] := rfl
  simp only [TellsSpeakers, says_iff h, readSpeakers]
  cases header.get? "speakers" <;> simp [eq_comm, hnil]

end

/-! ### Rule after rule -/

theorem later?_eq_none_iff {start : Moment} {minutes : Nat} :
    start.later? minutes = none ↔ ¬ start.number + minutes < Moment.count := by
  rw [Moment.later?]
  split <;> simp_all

variable [Languages]

theorem ofHeader_of_kind {fault : Fault} (hkind : readKind header = .error fault) :
    ofHeader header description = .error fault := by
  rw [ofHeader, hkind]
  rfl

theorem ofHeader_of_start {kind : EventKind} {fault : Fault} (hkind : readKind header = .ok kind)
    (hstart : readStart header = .error fault) : ofHeader header description = .error fault := by
  rw [ofHeader, hkind, hstart]
  rfl

variable {kind : EventKind} {start : Moment} (hkind : readKind header = .ok kind)
  (hstart : readStart header = .ok start)
include hkind hstart

theorem ofHeader_of_duration_none (h : header.get? "duration" = none) :
    ofHeader header description = .error (.missingSetting "duration") := by
  rw [ofHeader, hkind, hstart, h]
  rfl

theorem ofHeader_of_durationOf?_none {value : Text} (hvalue : header.get? "duration" = some value)
    (h : durationOf? value = none) :
    ofHeader header description = .error (.badDuration value (some .notNumber)) := by
  rw [ofHeader, hkind, hstart, hvalue]
  simp only [bind, Except.bind, h]

theorem ofHeader_of_durationOf? {value : Text} {minutes : Nat}
    (hvalue : header.get? "duration" = some value) (h : durationOf? value = some minutes) :
    ofHeader header description =
      if h : start.number + minutes < Moment.count then
        .ok ⟨kind, readTitle header, start, minutes, description, readLanguage header,
          readSpeakers header, h⟩
      else .error (.badDuration value (some .pastCalendar)) := by
  rw [ofHeader, hkind, hstart, hvalue]
  simp only [bind, Except.bind, h]

omit hkind hstart

/-- What a header makes of its settings is what its lines are judged to be. -/
theorem judged_ofHeader (hlines : ∀ line ∈ lines, ¬ Header.IsMalformed line)
    (h : Header.ofLines lines = .ok header) :
    Judged lines description (ofHeader header description) := by
  cases hkind : readKind header with
  | error fault =>
    obtain ⟨token, htype, hnone, rfl⟩ := (readKind_eq_error_iff h).mp hkind
    rw [ofHeader_of_kind hkind]
    exact .unknownKind hlines htype hnone
  | ok kind =>
    have htells := (readKind_eq_ok_iff h).mp hkind
    cases hstart : readStart header with
    | error fault =>
      rw [ofHeader_of_start hkind hstart]
      obtain ⟨hdate, rfl⟩ | ⟨value, hdate, hnone, rfl⟩ := (readStart_eq_error_iff h).mp hstart
      · exact .noDate hlines htells hdate
      · exact .badDate hlines htells hdate hnone
    | ok start =>
      have hstarts := (readStart_eq_ok_iff h).mp hstart
      cases hvalue : header.get? "duration" with
      | none =>
        rw [ofHeader_of_duration_none hkind hstart hvalue]
        exact .noDuration hlines htells hstarts ((says_iff h).mpr hvalue)
      | some value =>
        have hsays := (says_iff h).mpr hvalue
        cases hminutes : durationOf? value with
        | none =>
          rw [ofHeader_of_durationOf?_none hkind hstart hvalue hminutes]
          exact .notNumber hlines htells hstarts hsays (durationOf?_eq_none_iff.mp hminutes)
        | some minutes =>
          have hduration := durationOf?_eq_some_iff.mp hminutes
          rw [ofHeader_of_durationOf? hkind hstart hvalue hminutes]
          split
          · exact .accepted hlines htells hstarts ⟨value, hsays, hduration⟩
              ((readTitle_eq_iff h).mp rfl) (fun language => readLanguage_eq_some_iff h)
              ((readSpeakers_eq_iff h).mp rfl) rfl
          · rename_i hend
            exact .pastCalendar hlines htells hstarts hsays hduration (later?_eq_none_iff.mpr hend)

/-- A header makes of its settings what its lines are judged to be. -/
theorem Judged.ofHeader_eq {result : Except Fault Event} (h : Judged lines description result)
    (hheader : Header.ofLines lines = .ok header) : ofHeader header description = result := by
  cases h with
  | malformed hlines hbefore hline =>
    rw [hlines, Header.ofLines_of_isMalformed hbefore hline] at hheader
    cases hheader
  | unknownKind _ htype hnone =>
    exact ofHeader_of_kind ((readKind_eq_error_iff hheader).mpr ⟨_, htype, hnone, rfl⟩)
  | noDate _ hkind hdate =>
    exact ofHeader_of_start ((readKind_eq_ok_iff hheader).mpr hkind)
      ((readStart_eq_error_iff hheader).mpr (.inl ⟨hdate, rfl⟩))
  | badDate _ hkind hdate hnone =>
    exact ofHeader_of_start ((readKind_eq_ok_iff hheader).mpr hkind)
      ((readStart_eq_error_iff hheader).mpr (.inr ⟨_, hdate, hnone, rfl⟩))
  | noDuration _ hkind hstart hduration =>
    exact ofHeader_of_duration_none ((readKind_eq_ok_iff hheader).mpr hkind)
      ((readStart_eq_ok_iff hheader).mpr hstart) ((says_iff hheader).mp hduration)
  | notNumber _ hkind hstart hduration hnone =>
    exact ofHeader_of_durationOf?_none ((readKind_eq_ok_iff hheader).mpr hkind)
      ((readStart_eq_ok_iff hheader).mpr hstart) ((says_iff hheader).mp hduration)
      (durationOf?_eq_none_iff.mpr hnone)
  | pastCalendar _ hkind hstart hduration hminutes hend =>
    rw [ofHeader_of_durationOf? ((readKind_eq_ok_iff hheader).mpr hkind)
      ((readStart_eq_ok_iff hheader).mpr hstart) ((says_iff hheader).mp hduration)
      (durationOf?_eq_some_iff.mpr hminutes), dif_neg (later?_eq_none_iff.mp hend)]
  | @accepted event _ hkind hstart hduration htitle hlanguage hspeakers hdescription =>
    obtain ⟨value, hvalue, hminutes⟩ := hduration
    have hlanguages : readLanguage header = event.language := by
      ext language
      rw [readLanguage_eq_some_iff hheader, hlanguage]
    rw [ofHeader_of_durationOf? ((readKind_eq_ok_iff hheader).mpr hkind)
      ((readStart_eq_ok_iff hheader).mpr hstart) ((says_iff hheader).mp hvalue)
      (durationOf?_eq_some_iff.mpr hminutes), dif_pos event.end_lt, hlanguages]
    simp only [(readTitle_eq_iff hheader).mpr htitle, (readSpeakers_eq_iff hheader).mpr hspeakers,
      ← hdescription]

/-- What some lines are judged to be is read from them. -/
theorem Judged.eq {result : Except Fault Event} (h : Judged lines description result) :
    (Header.ofLines lines).bind (ofHeader · description) = result := by
  by_cases hlines : ∀ line ∈ lines, ¬ Header.IsMalformed line
  · obtain ⟨header, hheader⟩ := Header.exists_ofLines hlines
    rw [hheader]
    exact h.ofHeader_eq hheader
  · -- Only the first rule can have been broken, since all others build on it.
    cases h with
    | malformed hsplit hbefore hline =>
      rw [hsplit, Header.ofLines_of_isMalformed hbefore hline]
      rfl
    | _ => exact absurd ‹∀ line ∈ lines, ¬ Header.IsMalformed line› hlines

theorem judged_ofLines (lines : List Text) (description : Option Text) :
    Judged lines description ((Header.ofLines lines).bind (ofHeader · description)) := by
  obtain hlines | ⟨before, line, behind, rfl, hbefore, hline⟩ := Header.forall_or_exists_first lines
  · obtain ⟨header, hheader⟩ := Header.exists_ofLines hlines
    rw [hheader]
    exact judged_ofHeader hlines hheader
  · rw [Header.ofLines_of_isMalformed hbefore hline]
    exact .malformed rfl hbefore hline

/-- **A block is what its lines are judged to be.** The rules are asked in their order and the first
one that is broken is the fault, whatever else is wrong; a block that keeps all of them is the event
that its lines tell. -/
theorem ofBlockText_eq_iff (t : Text) (result : Except Fault Event) :
    ofBlockText t = result ↔
      Judged (Text.lines (Sections.ofText t).header) (Sections.ofText t).description result := by
  have hread : ofBlockText t = (Header.ofLines (Text.lines (Sections.ofText t).header)).bind
      (ofHeader · (Sections.ofText t).description) := rfl
  rw [hread]
  constructor
  · rintro rfl
    exact judged_ofLines ..
  · exact Judged.eq

/-- Of three broken rules the first one counts. -/
example : ofBlockText "type: party\ndate: now\nduration: long" =
    .error (.unknownKind "party") := by rfl

end Event

end Agenda
