import Agenda.Proofs.Document.HeaderLines
import Mathlib.Data.Nat.Find

/-!
# The line that parts a block

Without the blanks around it, a block is a list of lines, and a line between two others that holds
nothing but spaces and tabs parts it. Looking for such a line, line by line, finds what the walk
over the characters finds: the first of them ends the header, the description is all that follows,
and neither of the two is empty (`Sections.ofText_by_lines`). The first line and the last one never
part a block, since both hold more than blanks.
-/

namespace Agenda

/-! ### Trimmed texts -/

namespace Text

variable {t line : Text} {front rest : List Text}

/-- The first line of a trimmed text holds more than blanks. -/
theorem allBlank_of_lines_eq_cons (htrim : trim t = t) (hne : t ≠ [])
    (h : lines t = line :: rest) : allBlank line = false := by
  rw [← Bool.not_eq_true]
  intro hblank
  have hstart := trimStart_eq_self_iff.mpr (trim_eq_self_iff.mp htrim).1
  have htext : unlines ([line] ++ rest) = t := by
    rw [List.singleton_append, ← h, unlines_lines]
  cases rest with
  | nil =>
    rw [List.append_nil, unlines_singleton] at htext
    rw [htext, allBlank_of_trim_eq_self htrim hne] at hblank
    cases hblank
  | cons next others =>
    -- The blank line would be trimmed off, and the text would be shorter than it is.
    have hall : [line].all allBlank = true := by rw [List.all_cons, hblank]; rfl
    have hcut := trimStart_unlines_append hall (List.cons_ne_nil next others)
    rw [htext, hstart] at hcut
    have hlength := (trimStart_isSuffix (unlines (next :: others))).length_le
    rw [← hcut, ← htext, List.singleton_append, unlines_cons_cons, List.length_append,
      List.length_cons] at hlength
    omega

/-- The last line of a trimmed text holds more than blanks. -/
theorem allBlank_of_lines_eq_concat (htrim : trim t = t) (hne : t ≠ [])
    (h : lines t = front ++ [line]) : allBlank line = false := by
  rw [← Bool.not_eq_true]
  intro hblank
  have hend := trimEnd_eq_self_iff.mpr (trim_eq_self_iff.mp htrim).2
  have htext : unlines (front ++ [line]) = t := by rw [← h, unlines_lines]
  by_cases hfront : front = []
  · rw [hfront, List.nil_append, unlines_singleton] at htext
    rw [htext, allBlank_of_trim_eq_self htrim hne] at hblank
    cases hblank
  · have hall : [line].all allBlank = true := by rw [List.all_cons, hblank]; rfl
    have hcut := trimEnd_unlines_append hfront hall
    rw [htext, hend] at hcut
    have hlength := (trimEnd_isPrefix (unlines front)).length_le
    rw [← hcut, ← htext, unlines_append hfront (List.cons_ne_nil _ _), List.length_append,
      List.length_cons] at hlength
    omega

/-- The lines at the front of a trimmed text hold more than blanks. -/
theorem allBlank_unlines_take (htrim : trim t = t) (hne : t ≠ []) {n : Nat} (hpos : 0 < n) :
    allBlank (unlines ((lines t).take n)) = false := by
  obtain ⟨first, rest, hlines⟩ := List.exists_cons_of_ne_nil (List.splitOn_ne_nil '\n' t)
  obtain ⟨m, rfl⟩ := Nat.exists_eq_succ_of_ne_zero (Nat.ne_of_gt hpos)
  have hfirst := allBlank_of_lines_eq_cons htrim hne hlines
  rw [allBlank_unlines, lines, hlines, List.take_succ_cons, List.all_cons, hfirst, Bool.false_and]

/-- The lines at the end of a trimmed text hold more than blanks. -/
theorem allBlank_unlines_drop (htrim : trim t = t) (hne : t ≠ []) {n : Nat}
    (hlt : n < (lines t).length) : allBlank (unlines ((lines t).drop n)) = false := by
  obtain ⟨front, last, hlines⟩ :=
    (List.eq_nil_or_concat (lines t)).resolve_left (List.splitOn_ne_nil '\n' t)
  rw [List.concat_eq_append] at hlines
  have hlast := allBlank_of_lines_eq_concat htrim hne hlines
  rw [hlines, List.length_append, List.length_singleton] at hlt
  rw [allBlank_unlines, hlines, List.drop_append_of_le_length (Nat.le_of_lt_succ hlt),
    List.all_append, List.all_cons, hlast, Bool.false_and, Bool.and_false]

end Text

namespace Sections

/-! ### Separators -/

/-- Whether a line parts some lines: it stands between two others, and nothing is in it but spaces
and tabs. -/
def Separates (ls : List Text) (i : Nat) : Prop :=
  0 < i ∧ i + 1 < ls.length ∧ ∀ line ∈ ls[i]?, ∀ c ∈ line, c = ' ' ∨ c = '\t'

variable {ls : List Text} {t line : Text} {i : Nat}

theorem all_isSpace_iff : line.all Text.isSpace = true ↔ ∀ c ∈ line, c = ' ' ∨ c = '\t' := by
  simp only [List.all_eq_true, Text.isSpace, Bool.or_eq_true, beq_iff_eq]

theorem all_isSpace_eq_false_iff :
    line.all Text.isSpace = false ↔ ∃ c ∈ line, c ≠ ' ' ∧ c ≠ '\t' := by
  rw [← Bool.not_eq_true, all_isSpace_iff]
  simp only [not_forall, not_or, exists_prop]

theorem Separates.ne_nil (h : Separates (Text.lines t) i) : t ≠ [] := by
  rintro rfl
  exact absurd h.2.1 (by simp [Text.lines])

/-- Of the lines that part a text, one is the first. -/
theorem exists_first (h : Separates ls i) :
    ∃ first, Separates ls first ∧ ∀ j < first, ¬ Separates ls j := by
  classical
  exact ⟨Nat.find ⟨i, h⟩, Nat.find_spec ⟨i, h⟩, fun j hj => Nat.find_min ⟨i, h⟩ hj⟩

/-- The lines of a trimmed text that do not part it can stand in a header. -/
theorem isHeaderLine_of_not_separates (htrim : Text.trim t = t) (hne : t ≠ [])
    (hline : (Text.lines t)[i]? = some line) (h : ¬ Separates (Text.lines t) i) :
    IsHeaderLine line := by
  have hmem : line ∈ Text.lines t := List.mem_of_getElem? hline
  have hnewline := Text.newline_not_mem_of_mem_lines hmem
  obtain ⟨hlt, hvalue⟩ := List.getElem?_eq_some_iff.mp hline
  by_cases hzero : i = 0
  · -- It is the first line.
    subst hzero
    obtain ⟨first, rest, hlines⟩ := List.exists_cons_of_length_pos hlt
    have hfirst := Text.allBlank_of_lines_eq_cons htrim hne hlines
    simp only [hlines, List.getElem_cons_zero] at hvalue
    exact isHeaderLine_of_not_allBlank hnewline (hvalue ▸ hfirst)
  · by_cases hlast : i + 1 < (Text.lines t).length
    · refine ⟨hnewline, ?_⟩
      rw [← Bool.not_eq_true, all_isSpace_iff]
      intro hspace
      refine h ⟨Nat.pos_of_ne_zero hzero, hlast, fun other hother => ?_⟩
      rw [hline] at hother
      rwa [← Option.some.inj hother]
    · -- It is the last line.
      obtain ⟨front, last, hlines⟩ := List.eq_nil_or_concat (Text.lines t) |>.resolve_left
        (List.ne_nil_of_length_pos (Nat.zero_lt_of_lt hlt))
      rw [List.concat_eq_append] at hlines
      have hblank := Text.allBlank_of_lines_eq_concat htrim hne hlines
      have hindex : i = front.length := by
        rw [hlines, List.length_append, List.length_singleton] at hlast hlt
        omega
      simp only [hlines, hindex, List.getElem_concat_length] at hvalue
      exact isHeaderLine_of_not_allBlank hnewline (hvalue ▸ hblank)

/-! ### The walk over a trimmed text -/

/-- Where no line parts a trimmed text, all of its lines can stand in a header. -/
theorem isHeaderLine_of_forall_not_separates (htrim : Text.trim t = t) (hne : t ≠ [])
    (h : ∀ i, ¬ Separates (Text.lines t) i) : ∀ line ∈ Text.lines t, IsHeaderLine line := by
  intro line hmem
  obtain ⟨i, hline⟩ := List.mem_iff_getElem?.mp hmem
  exact isHeaderLine_of_not_separates htrim hne hline (h i)

theorem cutAtParagraph?_of_forall_not_separates (htrim : Text.trim t = t)
    (h : ∀ i, ¬ Separates (Text.lines t) i) : cutAtParagraph? t = none := by
  by_cases hne : t = []
  · rw [hne]
    rfl
  · have hwalk := cutAtParagraph?_unlines (isHeaderLine_of_forall_not_separates htrim hne h)
    rwa [Text.unlines_lines] at hwalk

theorem unlines_take_append_drop (h : Separates (Text.lines t) i) :
    ∃ line, line.all Text.isSpace = true ∧
      t = Text.unlines ((Text.lines t).take i) ++
        '\n' :: (line ++ '\n' :: Text.unlines ((Text.lines t).drop (i + 1))) := by
  obtain ⟨hpos, hlast, hspace⟩ := h
  have hlt : i < (Text.lines t).length := Nat.lt_of_succ_lt hlast
  have hline := List.getElem?_eq_getElem hlt
  refine ⟨(Text.lines t)[i], all_isSpace_iff.mpr (hspace _ hline), ?_⟩
  have htake : (Text.lines t).take i ≠ [] := by
    rw [ne_eq, List.take_eq_nil_iff, not_or]
    exact ⟨Nat.ne_of_gt hpos, List.ne_nil_of_length_pos (Nat.zero_lt_of_lt hlt)⟩
  have hdrop : (Text.lines t).drop (i + 1) ≠ [] := by
    rw [ne_eq, List.drop_eq_nil_iff]
    omega
  calc t = Text.unlines ((Text.lines t).take i ++ (Text.lines t).drop i) := by
        rw [List.take_append_drop, Text.unlines_lines]
    _ = _ := by
        have hbehind := Text.unlines_append (List.cons_ne_nil (Text.lines t)[i] []) hdrop
        rw [List.singleton_append, Text.unlines_singleton] at hbehind
        rw [List.drop_eq_getElem_cons hlt, Text.unlines_append htake (List.cons_ne_nil _ _),
          hbehind]

/-- What stands in front of the first line that parts a trimmed text can stand in a header. -/
theorem isHeaderLine_of_mem_take (htrim : Text.trim t = t) (h : Separates (Text.lines t) i)
    (hfirst : ∀ j < i, ¬ Separates (Text.lines t) j) :
    ∀ line ∈ (Text.lines t).take i, IsHeaderLine line := by
  intro line hmem
  obtain ⟨j, hline⟩ := List.mem_iff_getElem?.mp hmem
  obtain ⟨hlt, -⟩ := List.getElem?_eq_some_iff.mp hline
  rw [List.length_take] at hlt
  have hj : j < i := Nat.lt_of_lt_of_le hlt (Nat.min_le_left ..)
  rw [List.getElem?_take_of_lt hj] at hline
  exact isHeaderLine_of_not_separates htrim h.ne_nil hline (hfirst j hj)

/-- **The walk over a trimmed text stops at the first line that parts it.** -/
theorem cutAtParagraph?_of_separates (htrim : Text.trim t = t) (h : Separates (Text.lines t) i)
    (hfirst : ∀ j < i, ¬ Separates (Text.lines t) j) :
    cutAtParagraph? t = some (Text.unlines ((Text.lines t).take i),
      Text.unlines ((Text.lines t).drop (i + 1))) := by
  obtain ⟨line, hspace, htext⟩ := unlines_take_append_drop h
  conv_lhs => rw [htext]
  exact cutAtParagraph?_unlines_blankLine (isHeaderLine_of_mem_take htrim h hfirst) hspace _

/-- A trimmed text in which the walk finds no end is a header as it stands. -/
theorem isHeaderLine_of_cutAtParagraph?_eq_none (htrim : Text.trim t = t) (hne : t ≠ [])
    (h : cutAtParagraph? t = none) : ∀ line ∈ Text.lines t, IsHeaderLine line := by
  refine isHeaderLine_of_forall_not_separates htrim hne fun i hi => ?_
  obtain ⟨first, hseparates, hfirst⟩ := exists_first hi
  rw [cutAtParagraph?_of_separates htrim hseparates hfirst] at h
  cases h

/-! ### What stands before and behind a separator -/

/-- In front of the first line that parts a trimmed text stands a header that no line parts. -/
theorem trim_unlines_take_spec (htrim : Text.trim t = t) (h : Separates (Text.lines t) i)
    (hfirst : ∀ j < i, ¬ Separates (Text.lines t) j) :
    Text.trim (Text.unlines ((Text.lines t).take i)) ≠ [] ∧
      ∀ line ∈ Text.lines (Text.trim (Text.unlines ((Text.lines t).take i))),
        line.all Text.isSpace = false := by
  have hhead := Text.allBlank_unlines_take htrim h.ne_nil h.1
  have hne := Text.trim_ne_nil hhead
  refine ⟨hne, fun line hline => ?_⟩
  -- Nothing is trimmed off its front, since the whole text starts with it.
  have hstart : Text.trimStart (Text.unlines ((Text.lines t).take i)) =
      Text.unlines ((Text.lines t).take i) := by
    obtain ⟨_, -, htext⟩ := unlines_take_append_drop h
    rw [Text.trimStart_eq_self_iff]
    intro c hc
    refine (Text.trim_eq_self_iff.mp htrim).1 c ?_
    rw [htext, List.head?_append, Option.mem_def.mp hc]
    rfl
  have hcut : cutAtParagraph? (Text.trim (Text.unlines ((Text.lines t).take i))) = none := by
    rw [Text.trim, hstart]
    exact cutAtParagraph?_trimEnd_unlines (isHeaderLine_of_mem_take htrim h hfirst)
  exact (isHeaderLine_of_cutAtParagraph?_eq_none (Text.trim_trim _) hne hcut line hline).not_space

/-! ### Blocks -/

/-- The lines of a block without the blanks around it. -/
def bodyLines (t : Text) : List Text := Text.lines (Text.trim (Text.dropReturns t))

theorem ofText_of_forall_not_separates (h : ∀ i, ¬ Separates (bodyLines t) i) :
    ofText t = ⟨Text.trim (Text.dropReturns t), none⟩ := by
  simp only [ofText, cutAtParagraph?_of_forall_not_separates (Text.trim_trim _) h]

theorem ofText_of_separates (h : Separates (bodyLines t) i)
    (hfirst : ∀ j < i, ¬ Separates (bodyLines t) j) :
    ofText t = ⟨Text.trim (Text.unlines ((bodyLines t).take i)),
      some (Text.trim (Text.unlines ((bodyLines t).drop (i + 1))))⟩ := by
  have htrim := Text.trim_trim (Text.dropReturns t)
  have hrest := Text.trim_ne_nil (Text.allBlank_unlines_drop htrim h.ne_nil h.2.1)
  simp only [ofText, cutAtParagraph?_of_separates htrim h hfirst, descriptionOf,
    List.isEmpty_iff, hrest, if_false]
  rfl

/-- **A block is parted by its first line of spaces and tabs between two others.** Without such a
line all of it is the header. Otherwise the lines in front of it make the header and those behind it
the description, whatever they are, and neither is empty; no line of the header is like it. Lines
with any other character in them, be it a blank, part nothing. -/
theorem ofText_by_lines (t : Text) :
    ((∀ i, ¬ Separates (bodyLines t) i) →
        ofText t = ⟨Text.trim (Text.dropReturns t), none⟩) ∧
      (∀ i, Separates (bodyLines t) i → (∀ j < i, ¬ Separates (bodyLines t) j) →
        let header := Text.trim (Text.unlines ((bodyLines t).take i))
        let description := Text.trim (Text.unlines ((bodyLines t).drop (i + 1)))
        ofText t = ⟨header, some description⟩ ∧ header ≠ [] ∧ description ≠ [] ∧
          ∀ line ∈ Text.lines header, ∃ c ∈ line, c ≠ ' ' ∧ c ≠ '\t') ∧
      ((ofText t).description = none ↔ ∀ i, ¬ Separates (bodyLines t) i) ∧
      ∀ i, ∀ line ∈ (bodyLines t)[i]?, (∃ c ∈ line, c ≠ ' ' ∧ c ≠ '\t') →
        ¬ Separates (bodyLines t) i := by
  have htrim := Text.trim_trim (Text.dropReturns t)
  refine ⟨ofText_of_forall_not_separates, fun i h hfirst => ⟨ofText_of_separates h hfirst, ?_⟩,
    ⟨fun hnone i h => ?_, fun h => ?_⟩, ?_⟩
  · obtain ⟨hheader, hlines⟩ := trim_unlines_take_spec htrim h hfirst
    have hrest := Text.trim_ne_nil (Text.allBlank_unlines_drop htrim h.ne_nil h.2.1)
    exact ⟨hheader, hrest, fun line hline => all_isSpace_eq_false_iff.mp (hlines line hline)⟩
  · obtain ⟨first, hseparates, hfirst⟩ := exists_first h
    rw [ofText_of_separates hseparates hfirst] at hnone
    cases hnone
  · rw [ofText_of_forall_not_separates h]
  · rintro i line hline ⟨c, hmem, hspace, htab⟩ ⟨-, -, hall⟩
    exact (hall line hline c hmem).elim hspace htab

/-- A line with a form feed in it parts nothing; the empty one behind it does. -/
example : ofText "a: b\n \x0c\nc: d\n\n\n \nText\n" =
    ⟨"a: b\n \x0c\nc: d", some "Text"⟩ := by decide

end Sections

end Agenda
