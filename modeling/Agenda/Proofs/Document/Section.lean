import Agenda.Document.Section
import Agenda.Proofs.Text.Lines
import Agenda.Proofs.Text.Trim

/-!
# The end of a header

A header made of lines that each hold more than spaces and tabs has no paragraph end in it, so that
a text that starts with such a header is parted right behind it (`ofText_unlines`,
`ofText_unlines_append`). The walk over the text goes line by line: within a line nothing is a
paragraph end, and the line feed before such a line is none either.
-/

namespace Agenda

namespace Sections

/-- What a line of a header needs so that it does not end the header. -/
structure IsHeaderLine (line : Text) : Prop where
  one_line : '\n' ∉ line
  not_space : line.all Text.isSpace = false

/-! ### The walk over a text -/

theorem cutAtParagraph?_cons {c : Char} {t : Text}
    (h : c ≠ '\n' ∨ (t.dropWhile Text.isSpace).head? ≠ some '\n') :
    cutAtParagraph? (c :: t) = (cutAtParagraph? t).map (Prod.map (c :: ·) id) := by
  rw [cutAtParagraph?]
  · rfl
  · intro after hc hafter
    simp [hc, hafter] at h

theorem cutAtParagraph?_append {line : Text} (h : '\n' ∉ line) (rest : Text) :
    cutAtParagraph? (line ++ rest) =
      (cutAtParagraph? rest).map (Prod.map (line ++ ·) id) := by
  induction line with
  | nil =>
    rw [List.nil_append]
    cases cutAtParagraph? rest <;> rfl
  | cons c line ih =>
    rw [List.mem_cons, not_or] at h
    rw [List.cons_append, cutAtParagraph?_cons (.inl (Ne.symm h.1)), ih h.2, Option.map_map]
    rfl

/-- Behind a line feed a header line is still seen: its first character that is no space is no line
feed. -/
theorem head?_dropWhile_ne {line : Text} (h : IsHeaderLine line) (rest : Text) :
    ((line ++ rest).dropWhile Text.isSpace).head? ≠ some '\n' := by
  obtain ⟨hline, hspace⟩ := h
  induction line with
  | nil => cases hspace
  | cons c line ih =>
    rw [List.mem_cons, not_or] at hline
    rw [List.cons_append, List.dropWhile_cons]
    by_cases hc : Text.isSpace c = true
    · rw [if_pos hc]
      rw [List.all_cons, hc, Bool.true_and] at hspace
      exact ih hline.2 hspace
    · rw [if_neg hc, List.head?_cons]
      intro heq
      exact hline.1 (Option.some.inj heq).symm

theorem cutAtParagraph?_unlines_append {ls : List Text} (h : ∀ line ∈ ls, IsHeaderLine line)
    (rest : Text) :
    cutAtParagraph? (Text.unlines ls ++ rest) =
      (cutAtParagraph? rest).map (Prod.map (Text.unlines ls ++ ·) id) := by
  induction ls with
  | nil => exact cutAtParagraph?_append (List.not_mem_nil) rest
  | cons first others ih =>
    have hfirst : IsHeaderLine first := h first List.mem_cons_self
    have hothers := ih fun line hline => h line (List.mem_cons_of_mem _ hline)
    cases others with
    | nil => rw [Text.unlines_singleton, cutAtParagraph?_append hfirst.one_line]
    | cons second others =>
      have hsecond : IsHeaderLine second := h second (by simp)
      -- The next line begins what follows the line feed, so it is no paragraph end.
      have hseen : ((Text.unlines (second :: others) ++ rest).dropWhile Text.isSpace).head? ≠
          some '\n' := by
        cases others with
        | nil =>
          rw [Text.unlines_singleton]
          exact head?_dropWhile_ne hsecond rest
        | cons third others =>
          rw [Text.unlines_cons_cons, List.append_assoc]
          exact head?_dropWhile_ne hsecond _
      rw [Text.unlines_cons_cons, List.append_assoc, cutAtParagraph?_append hfirst.one_line,
        List.cons_append, cutAtParagraph?_cons (.inr hseen), hothers, Option.map_map,
        Option.map_map]
      congr 1
      funext cut
      simp only [Function.comp_apply, Prod.map, id_eq, List.append_assoc, List.cons_append]

/-- Where a text has no paragraph end, the front of it has none. -/
theorem cutAtParagraph?_of_append {front rest : Text} (h : cutAtParagraph? (front ++ rest) = none) :
    cutAtParagraph? front = none := by
  induction front with
  | nil => rfl
  | cons c front ih =>
    by_cases hend : c = '\n' ∧ (front.dropWhile Text.isSpace).head? = some '\n'
    · -- An end at the front of the front is one of the whole text, too.
      obtain ⟨rfl, hhead⟩ := hend
      obtain ⟨behind, hbehind⟩ := List.head?_eq_some_iff.mp hhead
      have hwhole : (front ++ rest).dropWhile Text.isSpace = '\n' :: (behind ++ rest) := by
        rw [List.dropWhile_append, hbehind]
        rfl
      simp only [List.cons_append, cutAtParagraph?, hwhole] at h
      cases h
    · have hfront := not_and_or.mp hend
      rw [cutAtParagraph?_cons hfront, Option.map_eq_none_iff]
      refine ih ?_
      by_cases hwhole : c = '\n' ∧ ((front ++ rest).dropWhile Text.isSpace).head? = some '\n'
      · obtain ⟨rfl, hhead⟩ := hwhole
        obtain ⟨behind, hbehind⟩ := List.head?_eq_some_iff.mp hhead
        simp only [List.cons_append, cutAtParagraph?, hbehind] at h
        cases h
      · rwa [List.cons_append, cutAtParagraph?_cons (not_and_or.mp hwhole),
          Option.map_eq_none_iff] at h

/-- A line of spaces and tabs between two line feeds is a paragraph end. -/
theorem cutAtParagraph?_blankLine {line : Text} (h : line.all Text.isSpace = true) (rest : Text) :
    cutAtParagraph? ('\n' :: (line ++ '\n' :: rest)) = some ([], rest) := by
  have hline : (line ++ '\n' :: rest).dropWhile Text.isSpace = '\n' :: rest := by
    rw [List.dropWhile_append_of_pos (List.all_eq_true.mp h)]
    rfl
  simp only [cutAtParagraph?, hline]

/-- In header lines there is no paragraph end. -/
theorem cutAtParagraph?_unlines {ls : List Text} (h : ∀ line ∈ ls, IsHeaderLine line) :
    cutAtParagraph? (Text.unlines ls) = none := by
  have hwalk := cutAtParagraph?_unlines_append h []
  rwa [List.append_nil] at hwalk

theorem cutAtParagraph?_trimEnd_unlines {ls : List Text} (h : ∀ line ∈ ls, IsHeaderLine line) :
    cutAtParagraph? (Text.trimEnd (Text.unlines ls)) = none := by
  have hwhole := cutAtParagraph?_unlines h
  obtain ⟨cut, hprefix⟩ := Text.trimEnd_isPrefix (Text.unlines ls)
  rw [← hprefix] at hwhole
  exact cutAtParagraph?_of_append hwhole

/-- Header lines and a line of spaces and tabs are parted at that line. -/
theorem cutAtParagraph?_unlines_blankLine {ls : List Text} (h : ∀ line ∈ ls, IsHeaderLine line)
    {line : Text} (hspace : line.all Text.isSpace = true) (rest : Text) :
    cutAtParagraph? (Text.unlines ls ++ '\n' :: (line ++ '\n' :: rest)) =
      some (Text.unlines ls, rest) := by
  rw [cutAtParagraph?_unlines_append h, cutAtParagraph?_blankLine hspace]
  simp only [Option.map_some, Prod.map, List.append_nil, id_eq]

/-! ### Whole blocks -/

/-- A text that is nothing but header lines has no description. -/
theorem ofText_unlines {ls : List Text} (h : ∀ line ∈ ls, IsHeaderLine line)
    (hreturns : Text.dropReturns (Text.unlines ls) = Text.unlines ls)
    (htrim : Text.trim (Text.unlines ls) = Text.unlines ls) :
    ofText (Text.unlines ls) = ⟨Text.unlines ls, none⟩ := by
  simp only [ofText, hreturns, htrim, cutAtParagraph?_unlines h]

/-- Header lines, an empty line and a trimmed text are parted at the empty line. -/
theorem ofText_unlines_append {ls : List Text} (h : ∀ line ∈ ls, IsHeaderLine line)
    {description : Text} (hne : description ≠ []) (hdescription : Text.trim description = description)
    (hheader : Text.trim (Text.unlines ls) = Text.unlines ls)
    (hreturns : Text.dropReturns (Text.unlines ls ++ "\n\n" ++ description) =
      Text.unlines ls ++ "\n\n" ++ description)
    (htrim : Text.trim (Text.unlines ls ++ "\n\n" ++ description) =
      Text.unlines ls ++ "\n\n" ++ description) :
    ofText (Text.unlines ls ++ "\n\n" ++ description) =
      ⟨Text.unlines ls, some description⟩ := by
  have hempty : ([] : Text).all Text.isSpace = true := rfl
  have hcut : cutAtParagraph? (Text.unlines ls ++ "\n\n" ++ description) =
      some (Text.unlines ls, description) := by
    rw [List.append_assoc]
    exact cutAtParagraph?_unlines_blankLine h hempty description
  have hkept : descriptionOf description = some description := by
    simp only [descriptionOf, List.isEmpty_iff, hne, if_false]
  simp only [ofText, hreturns, htrim, hcut, hheader, hdescription, hkept]

end Sections

end Agenda
