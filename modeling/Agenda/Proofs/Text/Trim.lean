import Agenda.Text.Basic
import Mathlib.Data.List.DropRight

/-!
# Trimmed texts

Trimming leaves exactly those texts alone that neither start nor end in a blank
(`trim_eq_self_iff`), its own results among them (`trim_trim`). It does not matter whether a blank
in front is cut off before or by it (`trim_cons_of_isBlank`).
-/

namespace Agenda.Text

theorem trimEnd_eq_rdropWhile (t : Text) : trimEnd t = t.rdropWhile isBlank := rfl

theorem trimStart_eq_self_iff {t : Text} :
    trimStart t = t ↔ ∀ c ∈ t.head?, isBlank c = false := by
  cases t with
  | nil => simp [trimStart]
  | cons c rest =>
    simp only [trimStart, List.dropWhile_eq_self_iff, List.length_cons, Nat.zero_lt_succ,
      List.getElem_cons_zero, forall_true_left, List.head?_cons, Option.mem_some_iff,
      forall_eq', Bool.not_eq_true]

theorem trimEnd_eq_self_iff {t : Text} :
    trimEnd t = t ↔ ∀ c ∈ t.getLast?, isBlank c = false := by
  rw [trimEnd_eq_rdropWhile, List.rdropWhile_eq_self_iff]
  constructor
  · intro h c hc
    obtain ⟨hne, rfl⟩ := List.mem_getLast?_eq_getLast hc
    simpa only [Bool.not_eq_true] using h hne
  · intro h hne
    rw [h _ (List.getLast_mem_getLast? hne)]
    exact Bool.false_ne_true

/-- Trimming leaves exactly those texts alone that neither start nor end in a blank. -/
theorem trim_eq_self_iff {t : Text} :
    trim t = t ↔
      (∀ c ∈ t.head?, isBlank c = false) ∧ ∀ c ∈ t.getLast?, isBlank c = false := by
  rw [← trimStart_eq_self_iff, ← trimEnd_eq_self_iff]
  constructor
  · intro h
    -- Both cuts only shorten, so a text that comes back whole was not cut at all.
    have hend : trimEnd (trimStart t) <+: trimStart t := List.rdropWhile_prefix ..
    have hstart : trimStart t <:+ t := List.dropWhile_suffix ..
    have hlength : t.length ≤ (trimStart t).length := by
      rw [trim] at h
      simpa only [h] using hend.length_le
    have hfirst : trimStart t = t := hstart.eq_of_length_le hlength
    rw [trim, hfirst] at h
    exact ⟨hfirst, h⟩
  · rintro ⟨hstart, hend⟩
    rw [trim, hstart, hend]

theorem trimStart_isSuffix (t : Text) : trimStart t <:+ t := List.dropWhile_suffix ..

theorem trimEnd_isPrefix (t : Text) : trimEnd t <+: t := List.rdropWhile_prefix ..

/-- What trimming leaves stands in the text as one piece. -/
theorem trim_infix (t : Text) : trim t <:+: t :=
  (trimEnd_isPrefix (trimStart t)).isInfix.trans (trimStart_isSuffix t).isInfix

/-- A text that was trimmed is left alone. -/
theorem trim_trim (t : Text) : trim (trim t) = trim t := by
  rw [trim_eq_self_iff]
  constructor
  · intro c hc
    -- The cut at the end leaves the first character, if it leaves any.
    obtain ⟨cut, hcut⟩ : trim t <+: trimStart t := List.rdropWhile_prefix ..
    obtain ⟨rest, hrest⟩ := List.head?_eq_some_iff.mp hc
    have hhead : (t.dropWhile isBlank).head? = some c := by
      rw [← trimStart, ← hcut, hrest]
      rfl
    have hfirst := List.head?_dropWhile_not isBlank t
    rwa [hhead] at hfirst
  · exact trimEnd_eq_self_iff.mp (List.rdropWhile_idempotent ..)

theorem trim_of_ends {t : Text} {first last : Char} (hfirst : t.head? = some first)
    (hlast : t.getLast? = some last) (h : isBlank first = false) (h' : isBlank last = false) :
    trim t = t := by
  rw [trim_eq_self_iff, hfirst, hlast]
  constructor
  · rintro c ⟨⟩
    exact h
  · rintro c ⟨⟩
    exact h'

theorem trim_of_forall {t : Text} (h : ∀ c ∈ t, isBlank c = false) : trim t = t := by
  rw [trim_eq_self_iff]
  exact ⟨fun c hc => h c (List.mem_of_mem_head? hc),
    fun c hc => h c (List.mem_of_mem_getLast? hc)⟩

theorem trim_cons_of_isBlank {c : Char} (h : isBlank c = true) (t : Text) :
    trim (c :: t) = trim t := by
  simp only [trim, trimStart, List.dropWhile_cons, h, if_true]

/-- A text that is not empty and trimmed holds more than blanks. -/
theorem allBlank_of_trim_eq_self {t : Text} (h : trim t = t) (hne : t ≠ []) :
    allBlank t = false := by
  obtain ⟨c, rest, rfl⟩ := List.exists_cons_of_ne_nil hne
  have hc : isBlank c = false := (trim_eq_self_iff.mp h).1 c rfl
  simp only [allBlank, List.all_cons, hc, Bool.false_and]

/-! ### Trimming pieces -/

theorem trimStart_append_of_allBlank {s : Text} (h : allBlank s = true) (t : Text) :
    trimStart (s ++ t) = trimStart t :=
  List.dropWhile_append_of_pos (List.all_eq_true.mp h)

/-- Where something is left of the first piece, trimming the front does not reach the second. -/
theorem trimStart_append_of_not_allBlank {s : Text} (h : allBlank s = false) (t : Text) :
    trimStart (s ++ t) = trimStart s ++ t := by
  have hne : (s.dropWhile isBlank).isEmpty = false := by
    rw [List.isEmpty_eq_false_iff, ne_eq, List.dropWhile_eq_nil_iff]
    exact fun hall => Bool.false_ne_true (h.symm.trans (List.all_eq_true.mpr hall))
  rw [trimStart, List.dropWhile_append, hne, if_neg Bool.false_ne_true]
  rfl

theorem allBlank_reverse (t : Text) : allBlank t.reverse = allBlank t := List.all_reverse

theorem trimEnd_append_of_allBlank (s : Text) {t : Text} (h : allBlank t = true) :
    trimEnd (s ++ t) = trimEnd s := by
  rw [← allBlank_reverse] at h
  rw [trimEnd, List.reverse_append]
  exact congrArg List.reverse (trimStart_append_of_allBlank h s.reverse)

theorem trimEnd_append_of_not_allBlank (s : Text) {t : Text} (h : allBlank t = false) :
    trimEnd (s ++ t) = s ++ trimEnd t := by
  rw [← allBlank_reverse] at h
  rw [trimEnd, List.reverse_append]
  refine (congrArg List.reverse (trimStart_append_of_not_allBlank h s.reverse)).trans ?_
  rw [List.reverse_append, List.reverse_reverse]
  rfl

theorem trim_trimStart (t : Text) : trim (trimStart t) = trim t :=
  congrArg trimEnd (List.dropWhile_idempotent ..)

/-- A character that is no blank is not trimmed off the front. -/
theorem mem_trimStart_iff {c : Char} {t : Text} (hc : isBlank c = false) :
    c ∈ trimStart t ↔ c ∈ t := by
  refine ⟨fun h => (trimStart_isSuffix t).subset h, fun h => ?_⟩
  rw [← List.takeWhile_append_dropWhile (p := isBlank) (l := t), List.mem_append] at h
  refine h.resolve_left fun hfront => ?_
  rw [List.mem_takeWhile_imp hfront] at hc
  cases hc

theorem mem_trimEnd_iff {c : Char} {t : Text} (hc : isBlank c = false) :
    c ∈ trimEnd t ↔ c ∈ t := by
  rw [trimEnd, List.mem_reverse, ← List.mem_reverse]
  exact (List.mem_reverse.trans (mem_trimStart_iff hc)).trans List.mem_reverse

/-- Texts are blank alike if they hold the same characters that are no blanks. -/
theorem allBlank_congr {s t : Text} (h : ∀ c, isBlank c = false → (c ∈ s ↔ c ∈ t)) :
    allBlank s = allBlank t := by
  rw [Bool.eq_iff_iff, allBlank, allBlank, List.all_eq_true, List.all_eq_true]
  refine forall_congr' fun c => ?_
  cases hc : isBlank c with
  | true => simp
  | false => rw [h c hc]

theorem allBlank_trimStart (t : Text) : allBlank (trimStart t) = allBlank t :=
  allBlank_congr fun _ => mem_trimStart_iff

theorem allBlank_trimEnd (t : Text) : allBlank (trimEnd t) = allBlank t :=
  allBlank_congr fun _ => mem_trimEnd_iff

theorem not_mem_of_allBlank {c : Char} {t : Text} (h : allBlank t = true)
    (hc : isBlank c = false) : c ∉ t := fun hmem =>
  Bool.false_ne_true (hc.symm.trans (List.all_eq_true.mp h c hmem))

theorem trim_eq_nil_iff {t : Text} : trim t = [] ↔ allBlank t = true := by
  constructor
  · intro h
    rw [← allBlank_trimStart, ← allBlank_trimEnd, ← trim, h]
    rfl
  · intro h
    have hstart : trimStart t = [] := List.dropWhile_eq_nil_iff.mpr (List.all_eq_true.mp h)
    rw [trim, hstart]
    rfl

theorem trim_ne_nil {t : Text} (h : allBlank t = false) : trim t ≠ [] := fun hnil =>
  Bool.false_ne_true (h.symm.trans (trim_eq_nil_iff.mp hnil))

/-- Trimming the front stops at a character that is no blank. -/
theorem trimStart_append_cons {c : Char} (hc : isBlank c = false) (s t : Text) :
    trimStart (s ++ c :: t) = trimStart s ++ c :: t := by
  rw [trimStart, List.dropWhile_append, List.dropWhile_cons, hc, if_neg Bool.false_ne_true]
  split
  · rename_i hempty
    rw [trimStart, List.isEmpty_iff.mp hempty, List.nil_append]
  · rfl

/-- Trimming the end stops at a character that is no blank. -/
theorem trimEnd_append_cons {c : Char} (hc : isBlank c = false) (s t : Text) :
    trimEnd (s ++ c :: t) = s ++ c :: trimEnd t := by
  have h := trimStart_append_cons hc t.reverse s.reverse
  rw [trimEnd, List.reverse_append, List.reverse_cons, List.append_assoc, List.singleton_append]
  refine (congrArg List.reverse h).trans ?_
  rw [List.reverse_append, List.reverse_cons, List.reverse_reverse, List.append_assoc]
  rfl

/-- The end may be trimmed before the front or behind it. -/
theorem trim_trimEnd (t : Text) : trim (trimEnd t) = trim t := by
  cases h : allBlank t with
  | true =>
    rw [trim_eq_nil_iff.mpr h, trim_eq_nil_iff, allBlank_trimEnd, h]
  | false =>
    obtain ⟨c, hmem, hc⟩ := List.all_eq_false.mp h
    obtain ⟨before, behind, rfl⟩ := List.append_of_mem hmem
    have hc := Bool.eq_false_iff.mpr hc
    have hend : trimEnd (trimEnd behind) = trimEnd behind := List.rdropWhile_idempotent ..
    rw [trimEnd_append_cons hc, trim, trim, trimStart_append_cons hc, trimStart_append_cons hc,
      trimEnd_append_cons hc, trimEnd_append_cons hc, hend]

theorem trim_append_of_allBlank (s : Text) {t : Text} (h : allBlank t = true) :
    trim (s ++ t) = trim s := by
  rw [← trim_trimEnd (s ++ t), trimEnd_append_of_allBlank s h, trim_trimEnd]

/-! ### Texts between blanks -/

theorem trim_between_blanks {front behind : Text} (hfront : allBlank front = true)
    (hbehind : allBlank behind = true) (t : Text) : trim (front ++ t ++ behind) = trim t := by
  rw [trim_append_of_allBlank (front ++ t) hbehind]
  exact congrArg trimEnd (trimStart_append_of_allBlank hfront t)

theorem not_mem_between_blanks {c : Char} {front t behind : Text} (hfront : allBlank front = true)
    (hbehind : allBlank behind = true) (hc : isBlank c = false) (h : c ∉ t) :
    c ∉ front ++ t ++ behind := by
  simp only [List.mem_append, not_or]
  exact ⟨⟨not_mem_of_allBlank hfront hc, h⟩, not_mem_of_allBlank hbehind hc⟩

/-- A text is what trimming leaves of it, between blanks. -/
theorem exists_blanks_trim (t : Text) : ∃ front behind,
    allBlank front = true ∧ allBlank behind = true ∧ t = front ++ trim t ++ behind := by
  refine ⟨t.takeWhile isBlank, (trimStart t).rtakeWhile isBlank, ?_, ?_, ?_⟩
  · exact List.all_eq_true.mpr fun c hc => List.mem_takeWhile_imp hc
  · exact List.all_eq_true.mpr fun c hc => List.mem_rtakeWhile_imp hc
  · rw [trim, trimEnd_eq_rdropWhile, List.append_assoc, List.rdropWhile_append_rtakeWhile,
      trimStart, List.takeWhile_append_dropWhile]

end Agenda.Text
