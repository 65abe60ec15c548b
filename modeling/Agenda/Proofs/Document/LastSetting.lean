import Agenda.Proofs.Document.HeaderLines

/-!
# The last setting of a key

A block written as lines of settings, with or without a text behind an empty line, is read from
these settings alone (`Event.ofBlockText_compose`): trimming the block, the header and the returns
at the ends of lines takes only blanks off the lines, which belong to no setting, whether a line
stands first, last or between others. An event asks the settings for the values of six keys, and of
several settings of one key the last one answers. So only the last value of each of these keys
matters (`Event.ofBlockText_last_values`).
-/

namespace Agenda

/-! ### Returns at the ends of lines -/

namespace Text

variable {line : Text} {ls : List Text}

/-- A line without the return at its end, if there is one. -/
def withoutReturn (line : Text) : Text :=
  if line.getLast? = some '\r' then line.dropLast else line

theorem withoutReturn_subset (line : Text) : withoutReturn line ⊆ line := by
  rw [withoutReturn]
  split
  · exact List.dropLast_subset line
  · exact List.Subset.refl line

theorem trim_withoutReturn (line : Text) : trim (withoutReturn line) = trim line := by
  rw [withoutReturn]
  split
  · rename_i hlast
    obtain ⟨front, rfl⟩ := List.getLast?_eq_some_iff.mp hlast
    rw [List.dropLast_concat, trim_append_of_allBlank front (by decide)]
  · rfl

theorem dropReturns_append_newline (h : '\n' ∉ line) (rest : Text) :
    dropReturns (line ++ '\n' :: rest) = withoutReturn line ++ '\n' :: dropReturns rest := by
  have hnewline : dropReturns ('\n' :: rest) = '\n' :: dropReturns rest :=
    dropReturns_cons (.inl (by decide))
  rw [withoutReturn]
  split
  · rename_i hlast
    obtain ⟨front, rfl⟩ := List.getLast?_eq_some_iff.mp hlast
    have hfront : '\n' ∉ front := fun hmem => h (List.mem_append_left _ hmem)
    rw [List.append_assoc, dropReturns_append (.inr (by simp)), dropReturns_of_not_mem hfront,
      List.dropLast_concat]
    rfl
  · rename_i hlast
    rw [dropReturns_append (.inl hlast), dropReturns_of_not_mem h, hnewline]

theorem dropReturns_unlines_append (hne : ls ≠ []) (h : ∀ line ∈ ls, '\n' ∉ line) (rest : Text) :
    dropReturns (unlines ls ++ '\n' :: rest) =
      unlines (ls.map withoutReturn) ++ '\n' :: dropReturns rest := by
  induction ls with
  | nil => exact absurd rfl hne
  | cons first others ih =>
    obtain ⟨hfirst, hothers⟩ := List.forall_mem_cons.mp h
    cases others with
    | nil =>
      rw [unlines_singleton, dropReturns_append_newline hfirst, List.map_singleton,
        unlines_singleton]
    | cons second others =>
      rw [unlines_cons_cons, List.append_assoc, List.cons_append,
        dropReturns_append_newline hfirst, ih (List.cons_ne_nil _ _) hothers, List.map_cons,
        List.map_cons, List.map_cons, unlines_cons_cons, List.append_assoc, List.cons_append]

/-- A line feed at the end is trimmed off, with or without a return in front of it. -/
theorem trim_dropReturns_concat (t : Text) :
    trim (dropReturns (t ++ ['\n'])) = trim (dropReturns t) := by
  have hnewline : allBlank ['\n'] = true := by decide
  by_cases hlast : t.getLast? = some '\r'
  · obtain ⟨front, rfl⟩ := List.getLast?_eq_some_iff.mp hlast
    have hpair : dropReturns (front ++ ['\r'] ++ ['\n']) = dropReturns front ++ ['\n'] := by
      rw [List.append_assoc, dropReturns_append (.inr (by simp))]
      rfl
    have hreturn : dropReturns (front ++ ['\r']) = dropReturns front ++ ['\r'] := by
      rw [dropReturns_append (.inr (by simp))]
      rfl
    rw [hpair, hreturn, trim_append_of_allBlank _ hnewline, trim_append_of_allBlank _ (by decide)]
  · rw [dropReturns_append (.inl hlast)]
    exact trim_append_of_allBlank _ hnewline

end Text

namespace Header

variable {line key value : Text} {ls : List Text} {header others : Header}

/-! ### Lines with a setting -/

/-- Whether a text can stand in a header as the line of a setting: there is a colon in it, so that
it is not blank, and no line feed. -/
def IsSettingLine (line : Text) : Prop := '\n' ∉ line ∧ ':' ∈ line

instance : DecidablePred IsSettingLine := fun _ => inferInstanceAs (Decidable (_ ∧ _))

/-- The key of a line: what stands in front of its first colon, without the blanks around it. -/
def keyOf (line : Text) : Text := Text.trim (line.takeWhile (· ≠ ':'))

theorem IsSettingLine.allBlank (h : IsSettingLine line) : Text.allBlank line = false := by
  rw [Text.allBlank, List.all_eq_false]
  exact ⟨':', h.2, by decide⟩

theorem IsSettingLine.isHeaderLine (h : IsSettingLine line) : Sections.IsHeaderLine line :=
  Sections.isHeaderLine_of_not_allBlank h.1 h.allBlank

theorem Sets.keyOf_eq (h : Sets line key value) : keyOf line = key := by
  obtain ⟨before, behind, rfl, hcolon, rfl, -⟩ := h
  have hbefore : ∀ c ∈ before, decide (c ≠ ':') = true := fun c hc =>
    decide_eq_true fun heq => hcolon (heq ▸ hc)
  rw [keyOf, List.takeWhile_append_of_pos hbefore, List.takeWhile_cons_of_neg (by simp),
    List.append_nil]

theorem exists_settingOf? (h : ':' ∈ line) :
    ∃ value, settingOf? line = some (keyOf line, value) := by
  obtain ⟨before, behind, rfl, hcolon⟩ := List.eq_append_cons_of_mem h
  have hsets : Sets (before ++ ':' :: behind) (Text.trim before) (Text.trim behind) :=
    ⟨before, behind, rfl, hcolon, rfl, rfl⟩
  exact ⟨Text.trim behind, by rw [hsets.keyOf_eq, settingOf?_eq_some_iff.mpr hsets]⟩

/-- The blanks around a line belong to no setting. -/
theorem settingOf?_trim (h : ':' ∈ line) : settingOf? (Text.trim line) = settingOf? line := by
  have hcolon : Text.isBlank ':' = false := by decide
  obtain ⟨before, behind, rfl, hbefore⟩ := List.eq_append_cons_of_mem h
  have hstart : ':' ∉ Text.trimStart before := fun hmem =>
    hbefore ((Text.trimStart_isSuffix before).subset hmem)
  rw [Text.trim, Text.trimStart_append_cons hcolon, Text.trimEnd_append_cons hcolon, settingOf?,
    settingOf?, cutAt?_append hstart, cutAt?_append hbefore]
  simp only [Option.map_some, Text.trim_trimStart, Text.trim_trimEnd]

/-- The settings of some lines that have one each. -/
theorem ofLines_eq_filterMap (h : ∀ line ∈ ls, ':' ∈ line) :
    ofLines ls = .ok (ls.filterMap settingOf?) := by
  induction ls with
  | nil => rfl
  | cons line rest ih =>
    obtain ⟨hline, hrest⟩ := List.forall_mem_cons.mp h
    obtain ⟨value, hsetting⟩ := exists_settingOf? hline
    rw [ofLines_cons_of_sets (settingOf?_eq_some_iff.mp hsetting), ih hrest,
      List.filterMap_cons_some hsetting]
    rfl

theorem colon_mem_trim_iff : ':' ∈ Text.trim line ↔ ':' ∈ line := by
  rw [Text.trim, Text.mem_trimEnd_iff (by decide), Text.mem_trimStart_iff (by decide)]

/-- Lines that differ in the blanks around them have the same settings. -/
theorem ofLines_congr {ls' : List Text} (h : ls'.map Text.trim = ls.map Text.trim)
    (hcolon : ∀ line ∈ ls, ':' ∈ line) : ofLines ls' = ofLines ls := by
  have hcolon' : ∀ line ∈ ls', ':' ∈ line := by
    intro line hline
    have htrim := List.mem_map_of_mem (f := Text.trim) hline
    rw [h] at htrim
    obtain ⟨other, hother, heq⟩ := List.mem_map.mp htrim
    rw [← colon_mem_trim_iff, ← heq, colon_mem_trim_iff]
    exact hcolon other hother
  have hsettings {ls : List Text} (hcolon : ∀ line ∈ ls, ':' ∈ line) :
      ls.filterMap settingOf? = (ls.map Text.trim).filterMap settingOf? := by
    rw [List.filterMap_map]
    exact List.filterMap_congr fun line hline => (settingOf?_trim (hcolon line hline)).symm
  rw [ofLines_eq_filterMap hcolon', ofLines_eq_filterMap hcolon, hsettings hcolon',
    hsettings hcolon, h]

theorem IsSettingLine.trimStart (h : IsSettingLine line) : IsSettingLine (Text.trimStart line) :=
  ⟨fun hmem => h.1 ((Text.trimStart_isSuffix line).subset hmem),
    (Text.mem_trimStart_iff (by decide)).mpr h.2⟩

theorem IsSettingLine.trimEnd (h : IsSettingLine line) : IsSettingLine (Text.trimEnd line) :=
  ⟨fun hmem => h.1 ((Text.trimEnd_isPrefix line).subset hmem),
    (Text.mem_trimEnd_iff (by decide)).mpr h.2⟩

theorem IsSettingLine.withoutReturn (h : IsSettingLine line) :
    IsSettingLine (Text.withoutReturn line) := by
  refine ⟨fun hmem => h.1 (Text.withoutReturn_subset line hmem), ?_⟩
  rw [← colon_mem_trim_iff, Text.trim_withoutReturn, colon_mem_trim_iff]
  exact h.2

/-- Putting lines together and trimming the whole changes only the blanks around them. -/
theorem map_trim_lines_trim_unlines (hne : ls ≠ []) (h : ∀ line ∈ ls, IsSettingLine line) :
    (Text.lines (Text.trim (Text.unlines ls))).map Text.trim = ls.map Text.trim := by
  obtain ⟨first, rest, rfl⟩ := List.exists_cons_of_ne_nil hne
  obtain ⟨hfirst, hrest⟩ := List.forall_mem_cons.mp h
  have hstart : ∀ line ∈ Text.trimStart first :: rest, IsSettingLine line :=
    List.forall_mem_cons.mpr ⟨hfirst.trimStart, hrest⟩
  have htrim : (Text.trimStart first :: rest).map Text.trim = (first :: rest).map Text.trim := by
    rw [List.map_cons, List.map_cons, Text.trim_trimStart]
  obtain ⟨front, last, hlast⟩ :=
    (List.eq_nil_or_concat (Text.trimStart first :: rest)).resolve_left (List.cons_ne_nil _ _)
  rw [List.concat_eq_append] at hlast
  rw [hlast, List.forall_mem_append, List.forall_mem_singleton] at hstart
  have hlines : ∀ line ∈ front ++ [Text.trimEnd last], '\n' ∉ line := by
    rw [List.forall_mem_append, List.forall_mem_singleton]
    exact ⟨fun line hline => (hstart.1 line hline).1, hstart.2.trimEnd.1⟩
  rw [Text.trim, Text.trimStart_unlines_cons hfirst.allBlank, hlast,
    Text.trimEnd_unlines_concat front hstart.2.allBlank, Text.lines_unlines (by simp) hlines,
    ← htrim, hlast, List.map_append, List.map_append, List.map_singleton, List.map_singleton,
    Text.trim_trimEnd]

/-! ### Headers that say the same -/

/-- The keys that an event is read from. -/
def keys : List Text := ["type", "title", "lang", "date", "duration", "speakers"]

/-- What is said of a key is said by its own settings. -/
theorem get?_filter (header : Header) (key : Text) :
    get? (header.filter (·.1 = key)) key = get? header key := by
  induction header with
  | nil => rfl
  | cons setting rest ih =>
    obtain ⟨k, value⟩ := setting
    by_cases hk : k = key
    · rw [List.filter_cons_of_pos (by simpa using hk), get?, get?, ih]
    · rw [List.filter_cons_of_neg (by simpa using hk), ih, get?, if_neg hk]
      cases get? rest key <;> rfl

/-- A setting of another key is not seen. -/
theorem get?_insert_of_ne {k : Text} (h : k ≠ key) (before after : Header) :
    get? (before ++ (k, value) :: after) key = get? (before ++ after) key := by
  rw [get?_append, get?_append, get?, if_neg h]
  cases get? after key <;> rfl

/-- A setting in front of one of the same key is not seen. -/
theorem get?_insert_of_later {k later : Text} {after : Header} (h : get? after k = some later)
    (before : Header) (key : Text) :
    get? (before ++ (k, value) :: after) key = get? (before ++ after) key := by
  by_cases hk : k = key
  · subst hk
    rw [get?_append, get?_append, get?, h]
  · exact get?_insert_of_ne hk before after

/-! ### Settings and their lines -/

/-- The settings of a key are those of the lines with that key. -/
theorem filter_filterMap_settingOf? (h : ∀ line ∈ ls, ':' ∈ line) (key : Text) :
    (ls.filterMap settingOf?).filter (·.1 = key) =
      (ls.filter (keyOf · = key)).filterMap settingOf? := by
  induction ls with
  | nil => rfl
  | cons line rest ih =>
    obtain ⟨hline, hrest⟩ := List.forall_mem_cons.mp h
    obtain ⟨value, hsetting⟩ := exists_settingOf? hline
    rw [List.filterMap_cons_some hsetting]
    by_cases hkey : keyOf line = key
    · rw [List.filter_cons_of_pos (by simpa using hkey),
        List.filter_cons_of_pos (by simpa using hkey), List.filterMap_cons_some hsetting, ih hrest]
    · rw [List.filter_cons_of_neg (by simpa using hkey),
        List.filter_cons_of_neg (by simpa using hkey), ih hrest]

theorem exists_get?_of_mem {setting : Text × Text} (h : setting ∈ header) :
    ∃ later, get? header setting.1 = some later := by
  induction header with
  | nil => cases h
  | cons first rest ih =>
    obtain ⟨k, value⟩ := first
    rw [get?]
    cases hrest : get? rest setting.1 with
    | some later => exact ⟨later, rfl⟩
    | none =>
      rcases List.mem_cons.mp h with rfl | hmem
      · exact ⟨value, if_pos rfl⟩
      · obtain ⟨later, hlater⟩ := ih hmem
        rw [hrest] at hlater
        cases hlater

/-- The key of a line has a value among the settings of some lines with that line. -/
theorem exists_get?_keyOf (hline : ':' ∈ line) (hmem : line ∈ ls) :
    ∃ later, get? (ls.filterMap settingOf?) (keyOf line) = some later := by
  obtain ⟨value, hsetting⟩ := exists_settingOf? hline
  exact exists_get?_of_mem (List.mem_filterMap.mpr ⟨line, hmem, hsetting⟩)

end Header

namespace Event

variable [Languages]

/-- **An event is read from the values of six keys** and the description. -/
theorem ofHeader_congr {header others : Header}
    (h : ∀ key ∈ Header.keys, header.get? key = others.get? key) (description : Option Text) :
    ofHeader header description = ofHeader others description := by
  simp only [Header.keys, List.forall_mem_cons] at h
  obtain ⟨htype, htitle, hlang, hdate, hduration, hspeakers, -⟩ := h
  simp only [ofHeader, readKind, readStart, readTitle, readLanguage, readSpeakers, htype, htitle,
    hlang, hdate, hduration, hspeakers]

end Event

namespace Sections

variable {ls : List Text}

/-- The text of a block: lines of a header and, behind an empty line, a text that may follow. -/
def compose (ls : List Text) : Option Text → Text
  | none => Text.unlines ls
  | some tail => Text.unlines ls ++ "\n\n" ++ tail

/-- In front of the trimmed lines of settings, nothing but the first of them is changed. -/
theorem exists_trim_unlines_append (hne : ls ≠ []) (h : ∀ line ∈ ls, Header.IsSettingLine line) :
    ∃ shown, (∀ line ∈ shown, IsHeaderLine line) ∧
      Text.trimStart (Text.unlines ls) = Text.unlines shown ∧
      ∀ rest, Text.trim (Text.unlines ls ++ rest) = Text.trimEnd (Text.unlines shown ++ rest) := by
  obtain ⟨first, others, rfl⟩ := List.exists_cons_of_ne_nil hne
  obtain ⟨hfirst, hothers⟩ := List.forall_mem_cons.mp h
  have hstart := Text.trimStart_unlines_cons hfirst.allBlank others
  have hblank : Text.allBlank (Text.unlines (first :: others)) = false := by
    rw [Text.allBlank_unlines, List.all_cons, hfirst.allBlank, Bool.false_and]
  refine ⟨Text.trimStart first :: others, List.forall_mem_cons.mpr
    ⟨hfirst.trimStart.isHeaderLine, fun line hline => (hothers line hline).isHeaderLine⟩, hstart,
    fun rest => ?_⟩
  rw [Text.trim, Text.trimStart_append_of_not_allBlank hblank, hstart]

/-- What stands behind an empty line behind some lines of settings is the description, if it holds
more than blanks. -/
theorem ofText_of_trim_eq (hne : ls ≠ []) (h : ∀ line ∈ ls, Header.IsSettingLine line)
    {t behind : Text} (ht : Text.trim (Text.dropReturns t) =
      Text.trim (Text.unlines ls ++ '\n' :: '\n' :: behind)) :
    ofText t = ⟨Text.trim (Text.unlines ls), descriptionOf (Text.trim behind)⟩ := by
  obtain ⟨shown, hshown, hstart, htrim⟩ := exists_trim_unlines_append hne h
  have hheader : Text.trim (Text.unlines ls) = Text.trimEnd (Text.unlines shown) := by
    rw [Text.trim, hstart]
  have hnewline : Text.isBlank '\n' = true := by decide
  rw [htrim] at ht
  cases hbehind : Text.allBlank behind with
  | true =>
    have hblank : Text.allBlank ('\n' :: '\n' :: behind) = true := by
      rw [Text.allBlank, List.all_cons, List.all_cons, hnewline, ← Text.allBlank, hbehind]
      rfl
    rw [Text.trimEnd_append_of_allBlank _ hblank] at ht
    rw [ofText, ht, cutAtParagraph?_trimEnd_unlines hshown, hheader,
      Text.trim_eq_nil_iff.mpr hbehind]
    rfl
  | false =>
    have hcut : cutAtParagraph? (Text.trimEnd (Text.unlines shown ++ '\n' :: '\n' :: behind)) =
        some (Text.unlines shown, Text.trimEnd behind) := by
      have hempty : ([] : Text).all Text.isSpace = true := rfl
      rw [List.append_cons, List.append_cons, Text.trimEnd_append_of_not_allBlank _ hbehind,
        List.append_assoc, List.append_assoc]
      exact cutAtParagraph?_unlines_blankLine hshown hempty _
    rw [ofText, ht, hcut]
    simp only [Text.trim_trimEnd, ← hstart, Text.trim_trimStart]

/-- **A block made of lines of settings is parted behind them.** -/
theorem ofText_compose (hne : ls ≠ []) (h : ∀ line ∈ ls, Header.IsSettingLine line)
    (tail : Option Text) :
    ofText (compose ls tail) = ⟨Text.trim (Text.unlines (ls.map Text.withoutReturn)),
      descriptionOf (Text.trim (Text.dropReturns (tail.getD [])))⟩ := by
  have hnewline : ∀ line ∈ ls, '\n' ∉ line := fun line hline => (h line hline).1
  have hkept : ∀ line ∈ ls.map Text.withoutReturn, Header.IsSettingLine line :=
    List.forall_mem_map.mpr fun line hline => (h line hline).withoutReturn
  refine ofText_of_trim_eq (mt List.map_eq_nil_iff.mp hne) hkept ?_
  cases tail with
  | none =>
    have hblank : Text.allBlank "\n\n" = true := by decide
    rw [compose, ← Text.trim_dropReturns_concat, Text.dropReturns_unlines_append hne hnewline]
    exact (Text.trim_append_of_allBlank _ (by decide)).trans
      (Text.trim_append_of_allBlank _ hblank).symm
  | some tail =>
    have htext : compose ls (some tail) = Text.unlines ls ++ '\n' :: '\n' :: tail := by
      rw [compose, List.append_assoc]
      rfl
    rw [htext, Text.dropReturns_unlines_append hne hnewline,
      Text.dropReturns_cons (.inl (by decide))]
    rfl

end Sections

namespace Event

theorem forall_mem_insert {α : Type} {p : α → Prop} {a : α} {before after : List α}
    (h : ∀ b ∈ before ++ after, p b) (ha : p a) : ∀ b ∈ before ++ a :: after, p b := by
  rw [List.forall_mem_append] at h ⊢
  exact ⟨h.1, List.forall_mem_cons.mpr ⟨ha, h.2⟩⟩

variable [Languages] {ls others : List Text}

/-- **A block of some lines of settings is read from these settings alone**, wherever its lines
stand and whatever blanks are around them. -/
theorem ofBlockText_compose (hne : ls ≠ []) (h : ∀ line ∈ ls, Header.IsSettingLine line)
    (tail : Option Text) :
    ofBlockText (Sections.compose ls tail) = ofHeader (ls.filterMap Header.settingOf?)
      (Sections.descriptionOf (Text.trim (Text.dropReturns (tail.getD [])))) := by
  have hkept : ∀ line ∈ ls.map Text.withoutReturn, Header.IsSettingLine line :=
    List.forall_mem_map.mpr fun line hline => (h line hline).withoutReturn
  have htrim : (ls.map Text.withoutReturn).map Text.trim = ls.map Text.trim := by
    rw [List.map_map]
    exact List.map_congr_left fun line _ => Text.trim_withoutReturn line
  have hheader := Header.map_trim_lines_trim_unlines (mt List.map_eq_nil_iff.mp hne) hkept
  rw [htrim] at hheader
  have hcolon : ∀ line ∈ ls, ':' ∈ line := fun line hline => (h line hline).2
  rw [ofBlockText, Sections.ofText_compose hne h, Header.ofText,
    Header.ofLines_congr hheader hcolon, Header.ofLines_eq_filterMap hcolon]
  rfl

/-- Blocks whose settings hold the same values for the six keys are read alike. -/
theorem ofBlockText_compose_congr (hne : ls ≠ []) (h : ∀ line ∈ ls, Header.IsSettingLine line)
    (hne' : others ≠ []) (h' : ∀ line ∈ others, Header.IsSettingLine line)
    (hsame : ∀ key ∈ Header.keys, Header.get? (others.filterMap Header.settingOf?) key =
      Header.get? (ls.filterMap Header.settingOf?) key) (tail : Option Text) :
    ofBlockText (Sections.compose others tail) = ofBlockText (Sections.compose ls tail) := by
  rw [ofBlockText_compose hne' h', ofBlockText_compose hne h, ofHeader_congr hsame]

/-- **Only the last value of each of the six keys matters.** A block of some lines of settings, and
of whatever follows behind an empty line, is read as the same event or has the same fault when its
lines are rearranged without a change to the order of those with one key, when a line of any other
key is put in anywhere, when a line of one of the keys is put in somewhere before another one of
that key, and whenever its lines are replaced by others that say the same of the six keys. -/
theorem ofBlockText_last_values (ls : List Text) (hne : ls ≠ [])
    (h : ∀ line ∈ ls, Header.IsSettingLine line) (tail : Option Text) :
    (∀ others, others.Perm ls →
        (∀ key, others.filter (Header.keyOf · = key) = ls.filter (Header.keyOf · = key)) →
          ofBlockText (Sections.compose others tail) = ofBlockText (Sections.compose ls tail)) ∧
      (∀ before line after, ls = before ++ after → Header.IsSettingLine line →
        Header.keyOf line ∉ Header.keys →
          ofBlockText (Sections.compose (before ++ line :: after) tail) =
            ofBlockText (Sections.compose ls tail)) ∧
      (∀ before line after, ls = before ++ after → Header.IsSettingLine line →
        Header.keyOf line ∈ Header.keys →
          (∃ later ∈ after, Header.keyOf later = Header.keyOf line) →
            ofBlockText (Sections.compose (before ++ line :: after) tail) =
              ofBlockText (Sections.compose ls tail)) ∧
      ∀ others, others ≠ [] → (∀ line ∈ others, Header.IsSettingLine line) →
        (∀ key ∈ Header.keys, ∀ value?,
          Header.Says others key value? ↔ Header.Says ls key value?) →
            ofBlockText (Sections.compose others tail) =
              ofBlockText (Sections.compose ls tail) := by
  have hcolon : ∀ line ∈ ls, ':' ∈ line := fun line hline => (h line hline).2
  refine ⟨fun others hperm hfilter => ?_, fun before line after hls hline hkey => ?_,
    fun before line after hls hline _ hlater => ?_, fun others hne' h' hsays => ?_⟩
  · have h' : ∀ line ∈ others, Header.IsSettingLine line :=
      fun line hline => h line (hperm.subset hline)
    have hne' : others ≠ [] := fun hnil => hne (hperm.symm.trans (hnil ▸ .nil)).eq_nil
    refine ofBlockText_compose_congr hne h hne' h' (fun key _ => ?_) tail
    have hcolon' : ∀ line ∈ others, ':' ∈ line := fun line hline => (h' line hline).2
    rw [← Header.get?_filter, Header.filter_filterMap_settingOf? hcolon', hfilter,
      ← Header.filter_filterMap_settingOf? hcolon, Header.get?_filter]
  · subst hls
    obtain ⟨value, hsetting⟩ := Header.exists_settingOf? hline.2
    refine ofBlockText_compose_congr hne h (by simp) (forall_mem_insert h hline)
      (fun key hmem => ?_) tail
    rw [List.filterMap_append, List.filterMap_append, List.filterMap_cons_some hsetting]
    exact Header.get?_insert_of_ne (fun heq : Header.keyOf line = key => hkey (heq ▸ hmem)) _ _
  · subst hls
    obtain ⟨value, hsetting⟩ := Header.exists_settingOf? hline.2
    obtain ⟨other, hother, hkey⟩ := hlater
    obtain ⟨later, hget⟩ :=
      Header.exists_get?_keyOf (hcolon other (List.mem_append_right _ hother)) hother
    rw [hkey] at hget
    refine ofBlockText_compose_congr hne h (by simp) (forall_mem_insert h hline)
      (fun key _ => ?_) tail
    rw [List.filterMap_append, List.filterMap_append, List.filterMap_cons_some hsetting]
    exact Header.get?_insert_of_later hget _ key
  · have hcolon' : ∀ line ∈ others, ':' ∈ line := fun line hline => (h' line hline).2
    refine ofBlockText_compose_congr hne h hne' h' (fun key hkey => ?_) tail
    rw [Header.get?_eq_iff_says (Header.ofLines_eq_filterMap hcolon'), hsays key hkey]
    exact Header.says_get? (Header.ofLines_eq_filterMap hcolon) key

end Event

namespace Event

attribute [local instance] Languages.french

/-- Lines of settings with blanks of several sorts around them. -/
def looseLines : List Text :=
  ["  date : 2024-11-06 09:00\r", "title:\x0cB \r", "type: talk", "duration:45\xa0"]

theorem ofBlockText_last_values_loose :
    (looseLines ≠ [] ∧ ∀ line ∈ looseLines, Header.IsSettingLine line) ∧
      ofBlockText (Sections.compose ("\ttitle : A" :: looseLines) (some "\r\nText")) =
        ofBlockText (Sections.compose looseLines (some "\r\nText")) ∧
      ofBlockText (Sections.compose (looseLines ++ [("Title: C\r" : Text)]) (some "\r\nText")) =
        ofBlockText (Sections.compose looseLines (some "\r\nText")) ∧
      (ofBlockText (Sections.compose looseLines (some "\r\nText"))).map (·.title) = .ok "B" := by
  have hne : looseLines ≠ [] := List.cons_ne_nil _ _
  have hlines : ∀ line ∈ looseLines, Header.IsSettingLine line := by decide +kernel
  obtain ⟨-, hother, hlater, -⟩ := ofBlockText_last_values looseLines hne hlines (some "\r\nText")
  refine ⟨⟨hne, hlines⟩, hlater [] "\ttitle : A" looseLines rfl ?_ ?_ ?_,
    hother looseLines "Title: C\r" [] (List.append_nil _).symm ?_ ?_, ?_⟩
  all_goals decide +kernel

end Event

end Agenda
