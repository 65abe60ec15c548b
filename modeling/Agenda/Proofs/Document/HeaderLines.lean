import Agenda.Proofs.Document.Rules

/-!
# The lines of a header

The header of a block is told by its lines: they run from the first line that is not blank to the
next one that holds nothing but spaces and tabs (`Sections.headerLines`). Trimming takes blanks off
the first of them and off the last, and blank lines off the end, and leaves the others as they are.
So a malformed line is reported as it stands in the block if it is neither, and without the blanks
around it else (`Event.ofBlockText_of_malformed`).
-/

namespace Agenda

/-! ### Trimming lines -/

namespace Text

variable {line : Text} {ls behind : List Text}

theorem trimStart_unlines_cons (h : allBlank line = false) (rest : List Text) :
    trimStart (unlines (line :: rest)) = unlines (trimStart line :: rest) := by
  cases rest with
  | nil => rw [unlines_singleton, unlines_singleton]
  | cons next others =>
    rw [unlines_cons_cons, trimStart_append_of_not_allBlank h, unlines_cons_cons]

/-- Blank lines go from the front. -/
theorem trimStart_unlines_append (h : ls.all allBlank = true) (hne : behind ≠ []) :
    trimStart (unlines (ls ++ behind)) = trimStart (unlines behind) := by
  by_cases hls : ls = []
  · rw [hls, List.nil_append]
  · have hblank : allBlank (unlines ls ++ ['\n']) = true := by
      rw [allBlank, List.all_append, ← allBlank, allBlank_unlines, h]
      decide
    rw [unlines_append hls hne, List.append_cons, trimStart_append_of_allBlank hblank]

/-- Blank lines go from the end. -/
theorem trimEnd_unlines_append (hne : ls ≠ []) (h : behind.all allBlank = true) :
    trimEnd (unlines (ls ++ behind)) = trimEnd (unlines ls) := by
  by_cases hbehind : behind = []
  · rw [hbehind, List.append_nil]
  · have hblank : allBlank ('\n' :: unlines behind) = true := by
      rw [allBlank, List.all_cons, ← allBlank, allBlank_unlines, h]
      decide
    rw [unlines_append hne hbehind, trimEnd_append_of_allBlank _ hblank]

/-- Lines are left alone in front of one that is not blank. -/
theorem trimEnd_unlines_append_of_not_all (hne : ls ≠ []) (h : behind.all allBlank = false) :
    trimEnd (unlines (ls ++ behind)) = unlines ls ++ '\n' :: trimEnd (unlines behind) := by
  have hbehind : behind ≠ [] := by
    rintro rfl
    cases h
  rw [← allBlank_unlines] at h
  rw [unlines_append hne hbehind, List.append_cons, trimEnd_append_of_not_allBlank _ h,
    ← List.append_cons]

theorem trimEnd_unlines_concat (ls : List Text) (h : allBlank line = false) :
    trimEnd (unlines (ls ++ [line])) = unlines (ls ++ [trimEnd line]) := by
  by_cases hls : ls = []
  · rw [hls, List.nil_append, List.nil_append, unlines_singleton, unlines_singleton]
  · rw [unlines_append hls (List.cons_ne_nil _ _), unlines_append hls (List.cons_ne_nil _ _),
      unlines_singleton, unlines_singleton, List.append_cons, trimEnd_append_of_not_allBlank _ h,
      ← List.append_cons]

end Text

/-! ### Header lines -/

namespace Sections

def headerLines (t : Text) : List Text :=
  match (Text.lines t).dropWhile Text.allBlank with
  | [] => []
  | first :: rest => first :: rest.takeWhile fun line => !line.all Text.isSpace

/-- A block is blank, or its header lines start with the first line that is not, and what follows
them starts with a line of spaces and tabs, if anything does. -/
theorem headerLines_cases (t : Text) :
    (Text.allBlank t = true ∧ headerLines t = []) ∨
      ∃ blanks first rest behind, Text.lines t = blanks ++ (first :: rest ++ behind) ∧
        headerLines t = first :: rest ∧ blanks.all Text.allBlank = true ∧
        Text.allBlank first = false ∧ (∀ line ∈ rest, line.all Text.isSpace = false) ∧
        ∀ line ∈ behind.head?, line.all Text.isSpace = true := by
  rw [headerLines]
  have hparts := List.takeWhile_append_dropWhile (p := Text.allBlank) (l := Text.lines t)
  have hblanks : ((Text.lines t).takeWhile Text.allBlank).all Text.allBlank = true :=
    List.all_eq_true.mpr fun line hline => List.mem_takeWhile_imp hline
  split
  · rename_i hnil
    rw [hnil, List.append_nil] at hparts
    rw [hparts, ← Text.allBlank_unlines, Text.unlines_lines] at hblanks
    exact .inl ⟨hblanks, rfl⟩
  · rename_i first rest hcons
    rw [hcons, ← List.takeWhile_append_dropWhile (p := fun line => !line.all Text.isSpace)
      (l := rest)] at hparts
    have hfirst := List.head?_dropWhile_not Text.allBlank (Text.lines t)
    have hlast := List.head?_dropWhile_not (fun line => !line.all Text.isSpace) rest
    rw [hcons] at hfirst
    refine .inr ⟨_, first, _, _, hparts.symm, rfl, hblanks, hfirst, fun line hline => ?_,
      fun line hline => ?_⟩
    · have hspace := List.mem_takeWhile_imp hline
      rwa [Bool.not_eq_true'] at hspace
    · rw [Option.mem_def.mp hline] at hlast
      exact (Bool.not_eq_false' ..).mp hlast

/-- No header line holds a line feed, and the first one is not blank. -/
theorem headerLines_spec {t : Text} {before behind : List Text} {line : Text}
    (h : headerLines t = before ++ line :: behind) :
    (∀ other ∈ before ++ line :: behind, '\n' ∉ other) ∧
      ∀ first ∈ before.head?, Text.allBlank first = false := by
  obtain ⟨-, hnil⟩ | ⟨blanks, first, rest, rear, hlines, hheader, -, hfirst, -⟩ :=
    headerLines_cases t
  · rw [hnil] at h
    exact absurd h.symm (by simp)
  · rw [← h, hheader]
    refine ⟨fun other hother => Text.newline_not_mem_of_mem_lines (t := t) ?_, ?_⟩
    · rw [hlines]
      exact List.mem_append_right _ (List.mem_append_left _ hother)
    · cases before with
      | nil => exact nofun
      | cons head others =>
        rw [hheader] at h
        obtain ⟨rfl, -⟩ := List.cons.inj h
        rintro _ ⟨⟩
        exact hfirst

/-- What stands in front of the paragraph end of a text, trimmed, or all of it. -/
def frontOf (t : Text) : Text :=
  match cutAtParagraph? t with
  | none => t
  | some (front, _) => Text.trim front

theorem header_eq_frontOf (t : Text) :
    (ofText t).header = frontOf (Text.trim (Text.dropReturns t)) := by
  rw [ofText, frontOf]
  cases cutAtParagraph? (Text.trim (Text.dropReturns t)) <;> rfl

theorem isHeaderLine_of_not_allBlank {line : Text} (hline : '\n' ∉ line)
    (h : Text.allBlank line = false) : IsHeaderLine line where
  one_line := hline
  not_space := by
    obtain ⟨c, hmem, hc⟩ := List.all_eq_false.mp h
    exact List.all_eq_false.mpr ⟨c, hmem, fun hspace => hc (Text.isBlank_of_isSpace hspace)⟩

/-- Of a trimmed text, the header is made of the header lines it starts with. -/
theorem frontOf_trimEnd_unlines {ls behind : List Text} (hne : ls ≠ [])
    (h : ∀ line ∈ ls, IsHeaderLine line)
    (hstart : Text.trimStart (Text.unlines ls) = Text.unlines ls)
    (hbehind : ∀ line ∈ behind.head?, line.all Text.isSpace = true) :
    frontOf (Text.trimEnd (Text.unlines (ls ++ behind))) = Text.trim (Text.unlines ls) := by
  cases hblank : behind.all Text.allBlank with
  | true =>
    -- Only blank lines follow: there is no paragraph end.
    rw [Text.trimEnd_unlines_append hne hblank, frontOf, cutAtParagraph?_trimEnd_unlines h,
      Text.trim, hstart]
  | false =>
    cases behind with
    | nil => cases hblank
    | cons line after =>
      have hspace : line.all Text.isSpace = true := hbehind line rfl
      have hline : Text.allBlank line = true :=
        List.all_eq_true.mpr fun c hc =>
          Text.isBlank_of_isSpace (List.all_eq_true.mp hspace c hc)
      rw [List.all_cons, hline, Bool.true_and] at hblank
      have hafter := Text.trimEnd_unlines_append_of_not_all (List.cons_ne_nil line []) hblank
      rw [List.singleton_append, Text.unlines_singleton] at hafter
      have hwhole : (line :: after).all Text.allBlank = false := by
        rw [List.all_cons, hline, hblank]
        rfl
      rw [Text.trimEnd_unlines_append_of_not_all hne hwhole, hafter, frontOf,
        cutAtParagraph?_unlines_blankLine h hspace]

/-- **The header is made of the header lines**, without the blanks at its ends. -/
theorem header_ofText (t : Text) :
    (ofText t).header = Text.trim (Text.unlines (headerLines (Text.dropReturns t))) := by
  rw [header_eq_frontOf]
  obtain ⟨hblank, hnil⟩ | ⟨blanks, first, rest, behind, hlines, hheader, hblanks, hfirst, hrest,
    hbehind⟩ := headerLines_cases (Text.dropReturns t)
  · have htrim : Text.trim (Text.dropReturns t) = [] := by
      rw [Text.trim, ← List.append_nil (Text.dropReturns t),
        Text.trimStart_append_of_allBlank hblank]
      rfl
    rw [htrim, hnil]
    rfl
  · have hnewline : ∀ line ∈ Text.lines (Text.dropReturns t), '\n' ∉ line :=
      fun line => Text.newline_not_mem_of_mem_lines
    rw [hlines] at hnewline
    have hls : ∀ line ∈ Text.trimStart first :: rest, IsHeaderLine line := by
      refine List.forall_mem_cons.mpr ⟨?_, fun line hline => ⟨hnewline line ?_, hrest line hline⟩⟩
      · refine isHeaderLine_of_not_allBlank (fun hmem => hnewline first (by simp) ?_)
          ((Text.allBlank_trimStart first).trans hfirst)
        exact (Text.trimStart_isSuffix first).subset hmem
      · simp [hline]
    have hstart : Text.trimStart (Text.unlines (Text.trimStart first :: rest)) =
        Text.unlines (Text.trimStart first :: rest) := by
      rw [← Text.trimStart_unlines_cons hfirst]
      exact List.dropWhile_idempotent ..
    have hfront := frontOf_trimEnd_unlines (List.cons_ne_nil _ _) hls hstart hbehind
    rw [hheader, ← Text.trim_trimStart (Text.unlines (first :: rest)),
      Text.trimStart_unlines_cons hfirst, ← hfront, Text.trim,
      ← Text.unlines_lines (Text.dropReturns t), hlines,
      Text.trimStart_unlines_append hblanks (by simp), List.cons_append,
      Text.trimStart_unlines_cons hfirst]
    rfl

end Sections

/-! ### Malformed lines -/

namespace Header

variable {before behind : List Text} {line : Text}

/-- Lines whose first one has lost the blanks at its start. -/
def trimFirst : List Text → List Text
  | [] => []
  | first :: rest => Text.trimStart first :: rest

/-- How a header line is shown between the others: without the blanks at its start if it is the
first one, and without those at its end if only blank lines follow. -/
def shown (before : List Text) (line : Text) (behind : List Text) : Text :=
  let line := if before.isEmpty then Text.trimStart line else line
  if behind.all Text.allBlank then Text.trimEnd line else line

/-- A line that is not blank stays, as it is shown, behind the lines in front of it. -/
theorem exists_lines_trim (hnewline : ∀ other ∈ before ++ line :: behind, '\n' ∉ other)
    (hfirst : ∀ first ∈ before.head?, Text.allBlank first = false)
    (hline : Text.allBlank line = false) :
    ∃ after, Text.lines (Text.trim (Text.unlines (before ++ line :: behind))) =
      trimFirst before ++ shown before line behind :: after := by
  let front := trimFirst before
  let middle := if before.isEmpty then Text.trimStart line else line
  have hstart : Text.trimStart (Text.unlines (before ++ line :: behind)) =
      Text.unlines (front ++ middle :: behind) := by
    cases before with
    | nil => exact Text.trimStart_unlines_cons hline behind
    | cons first rest => exact Text.trimStart_unlines_cons (hfirst first rfl) _
  obtain ⟨hmiddle, hsubset⟩ : Text.allBlank middle = false ∧ middle ⊆ line := by
    cases before with
    | nil => exact ⟨(Text.allBlank_trimStart line).trans hline, (Text.trimStart_isSuffix line).subset⟩
    | cons first rest => exact ⟨hline, List.Subset.refl line⟩
  have hfront : ∀ other ∈ front, '\n' ∉ other := by
    cases before with
    | nil => exact List.forall_mem_nil _
    | cons first rest =>
      refine List.forall_mem_cons.mpr ⟨fun hmem => ?_, fun other hother => ?_⟩
      · exact hnewline first (by simp) ((Text.trimStart_isSuffix first).subset hmem)
      · exact hnewline other (by simp [hother])
  have hshown {last : Text} (hlast : last ⊆ middle) : ∀ other ∈ front ++ [last], '\n' ∉ other := by
    rw [List.forall_mem_append, List.forall_mem_singleton]
    exact ⟨hfront, fun hmem => hnewline line (by simp) (hsubset (hlast hmem))⟩
  rw [Text.trim, hstart, List.append_cons]
  cases hblank : behind.all Text.allBlank with
  | true =>
    rw [Text.trimEnd_unlines_append (by simp) hblank, Text.trimEnd_unlines_concat _ hmiddle,
      Text.lines_unlines (by simp) (hshown (Text.trimEnd_isPrefix middle).subset), shown, hblank,
      if_pos rfl]
    exact ⟨[], rfl⟩
  | false =>
    rw [Text.trimEnd_unlines_append_of_not_all (by simp) hblank, Text.lines_append_newline,
      Text.lines_unlines (by simp) (hshown (List.Subset.refl middle)), shown, hblank,
      if_neg Bool.false_ne_true]
    exact ⟨_, List.append_assoc ..⟩

/-- A line is shown as it stands if it neither starts the header with a blank nor ends it with one.
-/
theorem shown_eq_self_iff : shown before line behind = line ↔
    (before = [] → ∀ c ∈ line.head?, Text.isBlank c = false) ∧
      (behind.all Text.allBlank = true → ∀ c ∈ line.getLast?, Text.isBlank c = false) := by
  rw [shown]
  cases before with
  | nil =>
    cases hblank : behind.all Text.allBlank with
    | true =>
      have htrim := Text.trim_eq_self_iff (t := line)
      simpa [Text.trim] using htrim
    | false =>
      have hstart := Text.trimStart_eq_self_iff (t := line)
      simpa using hstart
  | cons first rest =>
    cases hblank : behind.all Text.allBlank with
    | true =>
      have hend := Text.trimEnd_eq_self_iff (t := line)
      simpa using hend
    | false => simp

theorem isMalformed_trimStart_iff : IsMalformed (Text.trimStart line) ↔ IsMalformed line := by
  rw [IsMalformed, IsMalformed, Text.allBlank_trimStart, Text.mem_trimStart_iff (by decide)]

theorem isMalformed_trimEnd_iff : IsMalformed (Text.trimEnd line) ↔ IsMalformed line := by
  rw [IsMalformed, IsMalformed, Text.allBlank_trimEnd, Text.mem_trimEnd_iff (by decide)]

/-- Without the blanks around it a line is as malformed as with them. -/
theorem isMalformed_shown_iff : IsMalformed (shown before line behind) ↔ IsMalformed line := by
  rw [shown]
  cases before.isEmpty <;> cases behind.all Text.allBlank <;>
    simp [isMalformed_trimStart_iff, isMalformed_trimEnd_iff]

theorem not_isMalformed_of_mem_trimFirst (h : ∀ other ∈ before, ¬ IsMalformed other) :
    ∀ other ∈ trimFirst before, ¬ IsMalformed other := by
  cases before with
  | nil => exact h
  | cons first rest =>
    rw [List.forall_mem_cons] at h
    exact List.forall_mem_cons.mpr ⟨mt isMalformed_trimStart_iff.mp h.1, h.2⟩

end Header

namespace Event

variable {t line : Text} {before behind : List Text}

/-- **The first malformed line of a header is reported, but not always as it stands.** -/
theorem ofBlockText_of_malformed [Languages] (hreturn : '\r' ∉ t)
    (hlines : Sections.headerLines t = before ++ line :: behind)
    (hbefore : ∀ other ∈ before, ¬ Header.IsMalformed other) (hline : Header.IsMalformed line) :
    ofBlockText t = .error (.malformedField (Header.shown before line behind)) ∧
      (Header.shown before line behind = line ↔
        (before = [] → ∀ c ∈ line.head?, Text.isBlank c = false) ∧
          (behind.all Text.allBlank = true → ∀ c ∈ line.getLast?, Text.isBlank c = false)) := by
  refine ⟨?_, Header.shown_eq_self_iff⟩
  have hreturns : Text.dropReturns t = t := Text.dropReturns_of_return_not_mem hreturn
  have hheader := Sections.header_ofText t
  rw [hreturns, hlines] at hheader
  obtain ⟨hnewline, hfirst⟩ := Sections.headerLines_spec hlines
  obtain ⟨after, hafter⟩ := Header.exists_lines_trim hnewline hfirst hline.1
  rw [← hheader] at hafter
  have hjudged : Judged (Text.lines (Sections.ofText t).header) (Sections.ofText t).description
      (.error (.malformedField (Header.shown before line behind))) :=
    .malformed hafter (Header.not_isMalformed_of_mem_trimFirst hbefore)
      (Header.isMalformed_shown_iff.mpr hline)
  exact hjudged.eq

attribute [local instance] Languages.french

/-- A block whose malformed line starts with a blank, as its first line. -/
def indentedBlock : Text := " duration 45"

/-- A block whose malformed line ends with a blank, as its last line. -/
def trailingBlock : Text := "date: 2024-11-06 09:00\nduration 45 "

/-- A block whose malformed line has blanks around it, and lines before and behind it. -/
def innerBlock : Text := "type: talk\n duration 45 \ndate: 2024-11-06 09:00"

theorem ofBlockText_of_malformed_inner :
    '\r' ∉ innerBlock ∧ ofBlockText innerBlock = .error (.malformedField " duration 45 ") := by
  let before : List Text := ["type: talk"]
  let line : Text := " duration 45 "
  let behind : List Text := ["date: 2024-11-06 09:00"]
  have hreturn : '\r' ∉ innerBlock := by decide +kernel
  have hlines : Sections.headerLines innerBlock = before ++ line :: behind := by decide +kernel
  have hbefore : ∀ other ∈ before, ¬ Header.IsMalformed other := by decide +kernel
  have hline : Header.IsMalformed line := by decide +kernel
  have hbehind : behind.all Text.allBlank = false := by decide +kernel
  obtain ⟨hread, hshown⟩ := ofBlockText_of_malformed hreturn hlines hbefore hline
  refine ⟨hreturn, hread.trans ?_⟩
  rw [hshown.mpr ⟨nofun, fun h => nomatch hbehind.symm.trans h⟩]

/-- **A malformed line is not reported as it stands** if it is the first one of a header and starts
with a blank, or the last one and ends with a blank. -/
theorem malformed_line_not_verbatim :
    (¬ ∀ (t : Text) (before : List Text) (line : Text) (behind : List Text), '\r' ∉ t →
      Sections.headerLines t = before ++ line :: behind →
        (∀ other ∈ before, ¬ Header.IsMalformed other) → Header.IsMalformed line →
          ofBlockText t = .error (.malformedField line)) ∧
      ofBlockText indentedBlock = .error (.malformedField "duration 45") ∧
      ofBlockText trailingBlock = .error (.malformedField "duration 45") := by
  have hindented : ofBlockText indentedBlock = .error (.malformedField "duration 45") := by
    decide +kernel
  refine ⟨fun h => ?_, hindented, by decide +kernel⟩
  have hverbatim := h indentedBlock [] indentedBlock [] (by decide +kernel) (by decide +kernel)
    nofun (by decide +kernel)
  exact absurd (hindented.symm.trans hverbatim) (by decide +kernel)

end Event

end Agenda
