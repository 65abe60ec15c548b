import Agenda.Proofs.Calendar.Written
import Agenda.Proofs.Document.Header
import Agenda.Proofs.Document.Speakers
import Agenda.Proofs.Language.Code

/-!
# Written blocks are read back

The block written from an event in normal form is read as that event
(`Event.ofBlockText_blockText`). The proof follows the reading: the block falls into its header and
its description, the header into its settings, and every field is read from its own setting.
-/

namespace Agenda

namespace Event

variable {event : Event}

/-! ### Settings of an event -/

theorem newline_not_mem_speakerLine (h : ∀ name ∈ event.speakers, IsName name ∧ '\n' ∉ name) :
    '\n' ∉ event.speakerLine :=
  not_mem_join_names (by decide) (by decide) fun name hname => (h name hname).2

theorem isKey_names : ∀ key ∈ [("type".toList : Text), "title".toList, "lang".toList,
    "date".toList, "duration".toList, "speakers".toList], Header.IsKey key := by
  decide

theorem isPlain_type (event : Event) : Header.IsPlain ("type", event.kind.token) := by
  refine ⟨isKey_names _ (by simp), ?_, ?_⟩
  · cases event.kind <;> decide
  · cases event.kind <;> decide

theorem isPlain_lang {language : Language} (h : Language.IsCode language.alpha2) :
    Header.IsPlain ("lang", language.alpha2) := by
  refine ⟨isKey_names _ (by simp), h.trim, ?_⟩
  intro hmem
  exact absurd (h.2 _ hmem) (by decide)

theorem isPlain_date (event : Event) : Header.IsPlain ("date", event.start.text) :=
  ⟨isKey_names _ (by simp), Moment.trim_text _, Moment.newline_not_mem_text _⟩

theorem isPlain_duration (event : Event) :
    Header.IsPlain ("duration", Text.ofNat event.duration) := by
  refine ⟨isKey_names _ (by simp),
    Text.trim_of_isDigit fun c hc => Text.isDigit_of_mem_ofNat hc, ?_⟩
  intro hmem
  exact absurd (Text.isDigit_of_mem_ofNat hmem) (by decide)

theorem durationOf?_ofNat {minutes : Nat} (h : minutes ≤ maxDuration) :
    durationOf? (Text.ofNat minutes) = some minutes := by
  have hlength : (Text.ofNat minutes).length ≤ maxDigits := by
    have hlt : minutes < 10 ^ 10 := Nat.lt_of_le_of_lt h (by decide)
    exact Nat.le_trans (Text.length_ofNat_le (by decide) hlt) (by decide)
  have hdigits : (Text.ofNat minutes).all Text.isDigit = true :=
    List.all_eq_true.mpr fun c hc => Text.isDigit_of_mem_ofNat hc
  simp only [durationOf?, Text.natOfDigits_ofNat, ne_eq, Text.ofNat_ne_nil, not_false_eq_true,
    hdigits, hlength, h, and_self, if_true]

/-- Every key of a written header has the value that was written for it. -/
theorem get?_settings (event : Event) :
    event.settings.get? "type" = some event.kind.token ∧
      event.settings.get? "title" = some event.title ∧
      event.settings.get? "lang" = event.language.map (·.alpha2) ∧
      event.settings.get? "date" = some event.start.text ∧
      event.settings.get? "duration" = some (Text.ofNat event.duration) ∧
      event.settings.get? "speakers" = some ("[" ++ event.speakerLine ++ "]") := by
  rw [settings]
  cases event.language <;> exact ⟨rfl, rfl, rfl, rfl, rfl, rfl⟩

/-! ### The block of an event -/

def headerText (event : Event) : Text := Text.unlines (event.settings.map Header.lineOf)

theorem getLast?_unlines_concat {line : Text} (hne : line ≠ []) (ls : List Text) :
    (Text.unlines (ls ++ [line])).getLast? = line.getLast? := by
  induction ls with
  | nil => rw [List.nil_append, Text.unlines_singleton]
  | cons first rest ih =>
    obtain ⟨second, others, hrest⟩ : ∃ second others, rest ++ [line] = second :: others :=
      List.exists_cons_of_ne_nil (by simp)
    rw [hrest] at ih
    rw [List.cons_append, hrest, Text.unlines_cons_cons, List.getLast?_append,
      List.getLast?_cons, ih]
    cases hlast : line.getLast? with
    | none => exact absurd (List.getLast?_eq_none_iff.mp hlast) hne
    | some c => rfl

/-- A header starts with its first key and ends with the bracket behind the speakers. -/
theorem head?_headerText (event : Event) : event.headerText.head? = some 't' := rfl

theorem getLast?_headerText (event : Event) : event.headerText.getLast? = some ']' := by
  have hsettings : ∃ others, event.settings = others ++
      [("speakers".toList, "[".toList ++ event.speakerLine ++ "]".toList)] := ⟨_, rfl⟩
  obtain ⟨others, hothers⟩ := hsettings
  rw [headerText, hothers, List.map_append, List.map_singleton,
    getLast?_unlines_concat (List.ne_nil_of_mem (Header.colon_mem_lineOf _)), Header.lineOf,
    List.getLast?_append, List.getLast?_append]
  rfl

theorem trim_headerText (event : Event) : Text.trim event.headerText = event.headerText :=
  Text.trim_of_ends (head?_headerText event) (getLast?_headerText event) (by decide) (by decide)

theorem blockText_of_none (hdescription : event.description = none) :
    event.blockText = event.headerText := by
  simp only [blockText, hdescription, headerText]

theorem blockText_of_some {description : Text} (hdescription : event.description = some description) :
    event.blockText = event.headerText ++ "\n\n" ++ description := by
  simp only [blockText, hdescription, headerText]

theorem head?_blockText (event : Event) : event.blockText.head? = some 't' := by
  cases hdescription : event.description with
  | none => rw [blockText_of_none hdescription, head?_headerText]
  | some description =>
    rw [blockText_of_some hdescription, List.append_assoc, List.head?_append, head?_headerText]
    rfl

/-! ### Events in normal form -/

variable [Languages]

/-- An event in normal form: its texts are as reading leaves them, trimmed and of one line each but
for the description. -/
structure IsNormal (event : Event) : Prop where
  title_ne_nil : event.title ≠ []
  title_trim : Text.trim event.title = event.title
  title_line : '\n' ∉ event.title
  duration_le : event.duration ≤ maxDuration
  language_known : ∀ language ∈ event.language, language.IsKnown
  speakers_names : ∀ name ∈ event.speakers, IsName name ∧ '\n' ∉ name
  description_ne_nil : ∀ description ∈ event.description, description ≠ []
  description_trim : ∀ description ∈ event.description, Text.trim description = description
  description_returns : ∀ description ∈ event.description, ¬ ['\r', '\n'] <:+: description

theorem isPlain_title (h : event.IsNormal) : Header.IsPlain ("title", event.title) :=
  ⟨isKey_names _ (by simp), h.title_trim, h.title_line⟩

theorem isPlain_speakers (h : event.IsNormal) :
    Header.IsPlain ("speakers", "[" ++ event.speakerLine ++ "]") := by
  refine ⟨isKey_names _ (by simp), ?_, ?_⟩
  · have hlast : ("[".toList ++ event.speakerLine ++ "]".toList).getLast? = some ']' := by
      rw [List.getLast?_append]
      rfl
    exact Text.trim_of_ends rfl hlast (by decide) (by decide)
  · simp only [List.mem_append, not_or]
    exact ⟨⟨by decide, newline_not_mem_speakerLine h.speakers_names⟩, by decide⟩

/-- Every setting of an event in normal form is read back from its line. -/
theorem isPlain_of_mem_settings (h : event.IsNormal) :
    ∀ setting ∈ event.settings, Header.IsPlain setting := by
  intro setting hmem
  simp only [settings, List.mem_append, List.mem_cons, List.not_mem_nil, or_false] at hmem
  rcases hmem with (((rfl | rfl) | hlang) | rfl | rfl) | rfl
  · exact isPlain_type event
  · exact isPlain_title h
  · cases hlanguage : event.language with
    | none => simp [hlanguage] at hlang
    | some language =>
      rw [hlanguage] at hlang
      obtain rfl := List.mem_singleton.mp hlang
      exact isPlain_lang (h.language_known language hlanguage).1
  · exact isPlain_date event
  · exact isPlain_duration event
  · exact isPlain_speakers h

theorem dropReturns_headerText (h : event.IsNormal) :
    Text.dropReturns event.headerText = event.headerText := by
  apply Text.dropReturns_unlines
  intro line hline
  obtain ⟨setting, hsetting, rfl⟩ := List.mem_map.mp hline
  have hplain := isPlain_of_mem_settings h setting hsetting
  exact ⟨Header.newline_not_mem_lineOf hplain, Header.getLast?_lineOf_ne hplain⟩

theorem lines_headerText (h : event.IsNormal) :
    Text.lines event.headerText = event.settings.map Header.lineOf := by
  apply Text.lines_unlines
  · simp [settings]
  · intro line hline
    obtain ⟨setting, hsetting, rfl⟩ := List.mem_map.mp hline
    exact Header.newline_not_mem_lineOf (isPlain_of_mem_settings h setting hsetting)

theorem trim_blockText (h : event.IsNormal) : Text.trim event.blockText = event.blockText := by
  cases hdescription : event.description with
  | none => rw [blockText_of_none hdescription, trim_headerText]
  | some description =>
    have hne := h.description_ne_nil description hdescription
    have hlast := List.getLast?_eq_some_getLast hne
    have hblank := (Text.trim_eq_self_iff.mp (h.description_trim description hdescription)).2
    refine Text.trim_of_ends (head?_blockText event) ?_ (by decide) (hblank _ hlast)
    rw [blockText_of_some hdescription, List.getLast?_append, hlast]
    rfl

theorem dropReturns_blockText (h : event.IsNormal) :
    Text.dropReturns event.blockText = event.blockText := by
  cases hdescription : event.description with
  | none => rw [blockText_of_none hdescription, dropReturns_headerText h]
  | some description =>
    have hheader : event.headerText.getLast? ≠ some '\r' := by
      rw [getLast?_headerText]
      decide
    rw [blockText_of_some hdescription, List.append_assoc, Text.dropReturns_append (.inl hheader),
      dropReturns_headerText h,
      Text.dropReturns_append (s := "\n\n".toList) (.inl (by decide)),
      Text.dropReturns_eq_self (h.description_returns description hdescription)]
    rfl

/-! ### Reading a block -/

theorem sections_blockText (h : event.IsNormal) :
    Sections.ofText event.blockText = ⟨event.headerText, event.description⟩ := by
  have hlines : ∀ line ∈ event.settings.map Header.lineOf, Sections.IsHeaderLine line := by
    intro line hline
    obtain ⟨setting, hsetting, rfl⟩ := List.mem_map.mp hline
    exact Header.isHeaderLine_lineOf (isPlain_of_mem_settings h setting hsetting)
  have hreturns := dropReturns_blockText h
  have htrim := trim_blockText h
  cases hdescription : event.description with
  | none =>
    rw [blockText_of_none hdescription] at hreturns htrim ⊢
    exact Sections.ofText_unlines hlines hreturns htrim
  | some description =>
    rw [blockText_of_some hdescription] at hreturns htrim ⊢
    exact Sections.ofText_unlines_append hlines (h.description_ne_nil description hdescription)
      (h.description_trim description hdescription) (trim_headerText event) hreturns htrim

theorem ofHeader_settings (h : event.IsNormal) :
    ofHeader event.settings event.description = .ok event := by
  obtain ⟨htype, htitle, hlang, hdate, hduration, hspeakers⟩ := get?_settings event
  have hkind : readKind event.settings = .ok event.kind := by
    simp only [readKind, htype, EventKind.ofToken?_token]
  have hstart : readStart event.settings = .ok event.start := by
    simp only [readStart, hdate, Moment.ofText?_text]
  have hname : readTitle event.settings = event.title := by
    rw [readTitle, htitle]
    cases heq : event.title with
    | nil => exact absurd heq h.title_ne_nil
    | cons c rest => rfl
  have hlanguage : readLanguage event.settings = event.language := by
    rw [readLanguage, hlang]
    cases heq : event.language with
    | none => rfl
    | some language => exact (h.language_known language heq).ofCode?
  have hnames : readSpeakers event.settings = event.speakers := by
    rw [readSpeakers, hspeakers]
    exact speakersOf_brackets fun name hname => (h.speakers_names name hname).1
  simp only [ofHeader, hkind, hstart, hduration, durationOf?_ofNat h.duration_le, bind, Except.bind,
    dif_pos event.end_lt, hname, hlanguage, hnames]

/-- **The block of an event in normal form is read as that event.** -/
theorem ofBlockText_blockText (h : event.IsNormal) : ofBlockText event.blockText = .ok event := by
  have hheader : Header.ofText event.headerText = .ok event.settings := by
    rw [Header.ofText, lines_headerText h]
    exact Header.ofLines_map_lineOf (isPlain_of_mem_settings h)
  simp only [ofBlockText, sections_blockText h, hheader]
  exact ofHeader_settings h

end Event

end Agenda
