import Agenda.Text.Basic
import Mathlib.Data.List.Infix

/-!
# Lines and line ends

Lines put together with line feeds are cut into the same lines again, and every text is its lines
put together (`lines_unlines`, `unlines_lines`). Dropping returns works piece by piece where no pair
of a return and a line feed lies across a seam (`dropReturns_append`), and changes nothing where
there is no such pair (`dropReturns_eq_self`).
-/

namespace Agenda.Text

/-! ### Lines -/

theorem lines_append_newline (before after : Text) :
    lines (before ++ '\n' :: after) = lines before ++ lines after :=
  List.splitOn_append_cons_self ..

/-- What stands between two marks holds no mark, and nothing that the text does not hold. -/
theorem mem_splitOn_spec {mark : Char} {t part : Text} (h : part ∈ t.splitOn mark) :
    mark ∉ part ∧ part ⊆ t := by
  induction t generalizing part with
  | nil =>
    rw [List.splitOn_nil, List.mem_singleton] at h
    rw [h]
    exact ⟨List.not_mem_nil, List.Subset.refl _⟩
  | cons c rest ih =>
    rw [List.splitOn_cons_eq_if_modifyHead] at h
    split at h
    · rcases List.mem_cons.mp h with rfl | hrest
      · exact ⟨List.not_mem_nil, List.nil_subset _⟩
      · exact ⟨(ih hrest).1, List.subset_cons_of_subset c (ih hrest).2⟩
    · rename_i hc
      obtain ⟨first, others, hparts⟩ := List.exists_cons_of_ne_nil (List.splitOn_ne_nil mark rest)
      rw [hparts] at h ih
      rcases List.mem_cons.mp h with rfl | hothers
      · obtain ⟨hmark, hsubset⟩ := ih List.mem_cons_self
        rw [List.mem_cons, not_or]
        exact ⟨⟨fun heq => hc (beq_iff_eq.mpr heq.symm), hmark⟩, List.cons_subset_cons c hsubset⟩
      · obtain ⟨hmark, hsubset⟩ := ih (List.mem_cons_of_mem _ hothers)
        exact ⟨hmark, List.subset_cons_of_subset c hsubset⟩

/-- No line holds a line feed. -/
theorem newline_not_mem_of_mem_lines {t line : Text} (h : line ∈ lines t) : '\n' ∉ line :=
  (mem_splitOn_spec h).1

theorem lines_unlines {ls : List Text} (hne : ls ≠ []) (h : ∀ line ∈ ls, '\n' ∉ line) :
    lines (unlines ls) = ls :=
  List.splitOn_intercalate '\n' h hne

theorem unlines_lines (t : Text) : unlines (lines t) = t := List.intercalate_splitOn '\n'

theorem unlines_singleton (line : Text) : unlines [line] = line := by
  rw [unlines, join, List.intercalate_singleton]

theorem unlines_cons_cons (first second : Text) (rest : List Text) :
    unlines (first :: second :: rest) = first ++ '\n' :: unlines (second :: rest) := by
  rw [unlines, join, List.intercalate_cons_cons, List.append_assoc]
  rfl

theorem unlines_append {first second : List Text} (h : first ≠ []) (h' : second ≠ []) :
    unlines (first ++ second) = unlines first ++ '\n' :: unlines second := by
  induction first with
  | nil => exact absurd rfl h
  | cons line rest ih =>
    cases rest with
    | nil =>
      obtain ⟨next, others, rfl⟩ := List.exists_cons_of_ne_nil h'
      rw [List.singleton_append, unlines_cons_cons, unlines_singleton]
    | cons next others =>
      have hrest := ih (List.cons_ne_nil next others)
      rw [List.cons_append] at hrest
      rw [List.cons_append, List.cons_append, unlines_cons_cons, hrest, unlines_cons_cons,
        List.append_assoc, List.cons_append]

/-- Lines put together are blank just when each of them is: a line feed is a blank. -/
theorem allBlank_unlines (ls : List Text) : allBlank (unlines ls) = ls.all allBlank := by
  induction ls with
  | nil => rfl
  | cons first rest ih =>
    cases rest with
    | nil => rw [unlines_singleton, List.all_cons, List.all_nil, Bool.and_true]
    | cons second rest =>
      have hnewline : isBlank '\n' = true := by decide
      rw [unlines_cons_cons, allBlank, List.all_append, List.all_cons, hnewline, Bool.true_and,
        List.all_cons, ← ih]
      rfl

/-! ### Returns in front of line feeds -/

theorem dropReturns_cons {c : Char} {t : Text} (h : c ≠ '\r' ∨ t.head? ≠ some '\n') :
    dropReturns (c :: t) = c :: dropReturns t := by
  rw [dropReturns]
  intro rest hc ht
  subst hc ht
  simp at h

theorem dropReturns_append {s t : Text} (h : s.getLast? ≠ some '\r' ∨ t.head? ≠ some '\n') :
    dropReturns (s ++ t) = dropReturns s ++ dropReturns t := by
  fun_induction dropReturns s with
  | case1 => rfl
  | case2 rest ih =>
    simp only [List.cons_append, dropReturns, List.cons.injEq, true_and]
    apply ih
    cases rest with
    | nil => simp
    | cons c rest => simpa using h
  | case3 c rest hpair ih =>
    have hrest : c ≠ '\r' ∨ (rest ++ t).head? ≠ some '\n' := by
      by_cases hc : c = '\r'
      · right
        cases rest with
        | nil => simpa [hc] using h
        | cons d rest =>
          intro hd
          simp only [List.cons_append, List.head?_cons, Option.some.injEq] at hd
          exact hpair rest hc (by rw [hd])
      · exact .inl hc
    rw [List.cons_append, dropReturns_cons hrest, List.cons_append, ih]
    cases rest with
    | nil => simp
    | cons d rest => simpa using h

/-- Only the pair of a return and a line feed is changed. -/
theorem dropReturns_eq_self {t : Text} (h : ¬ ['\r', '\n'] <:+: t) : dropReturns t = t := by
  fun_induction dropReturns t with
  | case1 => rfl
  | case2 rest ih => exact absurd ⟨[], rest, rfl⟩ h
  | case3 c rest hpair ih =>
    rw [ih fun hrest => h (List.infix_cons hrest)]

theorem dropReturns_of_not_mem {t : Text} (h : '\n' ∉ t) : dropReturns t = t :=
  dropReturns_eq_self fun hpair => h (hpair.subset (by simp))

theorem dropReturns_of_return_not_mem {t : Text} (h : '\r' ∉ t) : dropReturns t = t :=
  dropReturns_eq_self fun hpair => h (hpair.subset List.mem_cons_self)

/-- Lines that do not end in a return have no pair between them. -/
theorem dropReturns_unlines {ls : List Text}
    (h : ∀ line ∈ ls, '\n' ∉ line ∧ line.getLast? ≠ some '\r') :
    dropReturns (unlines ls) = unlines ls := by
  induction ls with
  | nil => rfl
  | cons first rest ih =>
    obtain ⟨hfirst, hlast⟩ := h first List.mem_cons_self
    cases rest with
    | nil => rw [unlines_singleton, dropReturns_of_not_mem hfirst]
    | cons second rest =>
      have hrest := ih fun line hline => h line (List.mem_cons_of_mem _ hline)
      rw [unlines_cons_cons, dropReturns_append (.inl hlast), dropReturns_of_not_mem hfirst,
        dropReturns_cons (.inl (by decide)), hrest]

end Agenda.Text
