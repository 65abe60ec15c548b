import Agenda.Document.Block
import Mathlib.Tactic.ByContra

/-!
# Stretches of a document

The lines of a document are counted from 1. Between two neighbouring delimiters, and before the
first and behind the last one, lies a *stretch* of lines. A stretch is settled by any one of its
lines (`IsStretch.eq_of_mem`) and reaches as far as no delimiter stands in the way
(`IsStretch.mem_of_not_delimiterBetween`). What is left of a document behind a delimiter begins with
a stretch again (`IsTail.behind`, `IsTail.isStretch`).
-/

namespace Agenda.Block

/-! ### Lines by their numbers -/

/-- The line of a document with a number. Lines are counted from 1. -/
def lineAt? (document : Text) : Nat → Option Text
  | 0 => none
  | i + 1 => (documentLines document)[i]?

/-- Whether a delimiter stands at a number. -/
def DelimiterAt (document : Text) (n : Nat) : Prop :=
  ∃ line, lineAt? document n = some line ∧ isDelimiter line = true

/-- Whether text stands at a number: a line that is no delimiter and not blank. -/
def TextAt (document : Text) (n : Nat) : Prop :=
  ∃ line, lineAt? document n = some line ∧ isDelimiter line = false ∧ Text.allBlank line = false

/-- Whether a delimiter stands between two numbers. -/
def DelimiterBetween (document : Text) (m n : Nat) : Prop :=
  ∃ k, DelimiterAt document k ∧ (m < k ∧ k < n ∨ n < k ∧ k < m)

/-- The lines from number `first` to the one before number `past`. -/
def linesBetween (document : Text) (first past : Nat) : List Text :=
  ((documentLines document).drop (first - 1)).take (past - first)

/-- Whether the lines from number `first` to the one before number `past` are all lines between two
neighbouring delimiters. The two ends of the document count as delimiters here. -/
structure IsStretch (document : Text) (first past : Nat) : Prop where
  first_pos : 1 ≤ first
  first_le : first ≤ past
  past_le : past ≤ (documentLines document).length + 1
  before : first = 1 ∨ DelimiterAt document (first - 1)
  no_delimiter : ∀ n, first ≤ n → n < past → ¬ DelimiterAt document n
  behind : past = (documentLines document).length + 1 ∨ DelimiterAt document past

variable {document line : Text} {m n first past first' past' : Nat}

theorem bounds_of_lineAt? (h : lineAt? document n = some line) :
    1 ≤ n ∧ n ≤ (documentLines document).length := by
  cases n with
  | zero => cases h
  | succ i => exact ⟨Nat.succ_pos i, (List.getElem?_eq_some_iff.mp h).1⟩

theorem lineAt?_add (h : 1 ≤ first) (i : Nat) :
    lineAt? document (first + i) = ((documentLines document).drop (first - 1))[i]? := by
  obtain ⟨j, rfl⟩ := Nat.exists_eq_add_of_le' h
  rw [List.getElem?_drop, Nat.add_sub_cancel, Nat.add_right_comm]
  rfl

theorem lineAt?_add_of_lt (h : 1 ≤ first) {i : Nat} (hi : first + i < past) :
    lineAt? document (first + i) = (linesBetween document first past)[i]? := by
  rw [lineAt?_add h, linesBetween, List.getElem?_take_of_lt (by omega)]

theorem not_delimiterAt_of_textAt (h : TextAt document n) : ¬ DelimiterAt document n := by
  obtain ⟨line, hline, hplain, _⟩ := h
  rintro ⟨other, hother, hdelimiter⟩
  rw [hline, Option.some.injEq] at hother
  rw [hother, hdelimiter] at hplain
  cases hplain

/-! ### Stretches -/

namespace IsStretch

/-- No stretch goes back over a delimiter that another one with a line of it starts behind. -/
theorem first_le_of_mem (h : IsStretch document first past) (h' : IsStretch document first' past')
    (hn : n < past) (hn' : first' ≤ n) : first' ≤ first := by
  rcases h'.before with hone | hdelimiter
  · rw [hone]
    exact h.first_pos
  · by_contra hlt
    exact h.no_delimiter (first' - 1) (by omega) (by omega) hdelimiter

theorem past_le_of_mem (h : IsStretch document first past) (h' : IsStretch document first' past')
    (hn : first ≤ n) (hn' : n < past') : past ≤ past' := by
  rcases h'.behind with hend | hdelimiter
  · rw [hend]
    exact h.past_le
  · by_contra hlt
    exact h.no_delimiter past' (by omega) (by omega) hdelimiter

/-- **A stretch is settled by any one of its lines.** -/
theorem eq_of_mem (h : IsStretch document first past) (h' : IsStretch document first' past')
    (hn : first ≤ n ∧ n < past) (hn' : first' ≤ n ∧ n < past') : first = first' ∧ past = past' :=
  ⟨Nat.le_antisymm (h'.first_le_of_mem h hn'.2 hn.1) (h.first_le_of_mem h' hn.2 hn'.1),
    Nat.le_antisymm (h.past_le_of_mem h' hn.1 hn'.2) (h'.past_le_of_mem h hn'.1 hn.2)⟩

/-- A stretch goes on from one of its lines to any line of text that no delimiter keeps away. -/
theorem mem_of_not_delimiterBetween (h : IsStretch document first past)
    (hm : first ≤ m ∧ m < past) (hn : TextAt document n) (hbetween : ¬ DelimiterBetween document m n) :
    first ≤ n ∧ n < past := by
  obtain ⟨hpos, hle⟩ := bounds_of_lineAt? hn.choose_spec.1
  have hplain := not_delimiterAt_of_textAt hn
  constructor
  · rcases h.before with hone | hdelimiter
    · rw [hone]
      exact hpos
    · by_contra hlt
      have hne : n ≠ first - 1 := fun heq => hplain (heq ▸ hdelimiter)
      exact hbetween ⟨first - 1, hdelimiter, .inr (by omega)⟩
  · rcases h.behind with hend | hdelimiter
    · rw [hend]
      exact Nat.lt_succ_of_le hle
    · by_contra hlt
      have hne : n ≠ past := fun heq => hplain (heq ▸ hdelimiter)
      exact hbetween ⟨past, hdelimiter, .inl (by omega)⟩

theorem not_delimiterBetween (h : IsStretch document first past) (hm : first ≤ m ∧ m < past)
    (hn : first ≤ n ∧ n < past) : ¬ DelimiterBetween document m n := by
  rintro ⟨k, hdelimiter, hbetween⟩
  exact h.no_delimiter k (by omega) (by omega) hdelimiter

end IsStretch

/-! ### What is left of a document -/

/-- Whether the lines of a document from number `start` on are these, with a stretch that begins
there. -/
structure IsTail (document : Text) (start : Nat) (ls : List Text) : Prop where
  start_pos : 1 ≤ start
  length_eq : start + ls.length = (documentLines document).length + 1
  drop_eq : (documentLines document).drop (start - 1) = ls
  before : start = 1 ∨ DelimiterAt document (start - 1)

theorem isTail_documentLines (document : Text) : IsTail document 1 (documentLines document) :=
  ⟨Nat.le_refl 1, Nat.add_comm .., rfl, .inl rfl⟩

namespace IsTail

variable {start : Nat} {ls rest : List Text} {delimiter : Text}

theorem lineAt?_eq (h : IsTail document start ls) (i : Nat) :
    lineAt? document (start + i) = ls[i]? := by
  rw [lineAt?_add h.start_pos, h.drop_eq]

theorem linesBetween_eq (h : IsTail document start (ls ++ rest)) :
    linesBetween document start (start + ls.length) = ls := by
  rw [linesBetween, h.drop_eq, Nat.add_sub_cancel_left, List.take_left]

theorem delimiterAt (h : IsTail document start (ls ++ delimiter :: rest))
    (hdelimiter : isDelimiter delimiter = true) : DelimiterAt document (start + ls.length) := by
  refine ⟨delimiter, ?_, hdelimiter⟩
  rw [h.lineAt?_eq, List.getElem?_append_right (Nat.le_refl _), Nat.sub_self]
  rfl

/-- What is left behind a delimiter. -/
theorem behind (h : IsTail document start (ls ++ delimiter :: rest))
    (hdelimiter : isDelimiter delimiter = true) :
    IsTail document (start + ls.length + 1) rest where
  start_pos := Nat.le_add_left ..
  length_eq := by
    have hlength := h.length_eq
    rw [List.length_append, List.length_cons] at hlength
    omega
  drop_eq := by
    have hsplit : ls ++ delimiter :: rest = (ls ++ [delimiter]) ++ rest := by
      rw [List.append_assoc, List.singleton_append]
    have hstart := h.start_pos
    have hdrop : start + ls.length + 1 - 1 = start - 1 + (ls ++ [delimiter]).length := by
      rw [List.length_append, List.length_singleton]
      omega
    rw [hdrop, ← List.drop_drop, h.drop_eq, hsplit, List.drop_left]
  before := .inr (h.delimiterAt hdelimiter)

/-- The lines up to the next delimiter, or up to the end, are a stretch. -/
theorem isStretch (h : IsTail document start (ls ++ rest))
    (hplain : ∀ line ∈ ls, isDelimiter line = false)
    (hrest : ∀ line ∈ rest.head?, isDelimiter line = true) :
    IsStretch document start (start + ls.length) where
  first_pos := h.start_pos
  first_le := Nat.le_add_right ..
  past_le := by
    have hlength := h.length_eq
    rw [List.length_append] at hlength
    omega
  before := h.before
  no_delimiter n hfirst hpast := by
    rintro ⟨line, hline, hdelimiter⟩
    obtain ⟨i, rfl⟩ := Nat.exists_eq_add_of_le hfirst
    rw [h.lineAt?_eq, List.getElem?_append_left (Nat.lt_of_add_lt_add_left hpast)] at hline
    rw [hplain line (List.mem_of_getElem? hline)] at hdelimiter
    cases hdelimiter
  behind := by
    cases rest with
    | nil =>
      left
      rw [← h.length_eq, List.append_nil]
    | cons delimiter rest => exact .inr (h.delimiterAt (hrest delimiter rfl))

end IsTail

end Agenda.Block
