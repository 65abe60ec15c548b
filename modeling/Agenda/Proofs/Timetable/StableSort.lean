import Agenda.Timetable.Basic

/-!
# Sorting by a key

A list sorted by a key is determined by what it holds at each key: two sorted lists with the same
elements at every key, in the same order, are equal (`eq_of_atKey_eq`). Sorting keeps what a list
holds at a key in its order (`atKey_mergeSort`), so it is the one sorted list with that property.
-/

namespace Agenda

namespace StableSort

variable {α : Type} {key : α → Nat}

/-- Whether the keys of a list do not descend. -/
def SortedBy (key : α → Nat) (l : List α) : Prop := l.Pairwise fun a b => key a ≤ key b

def atKey (key : α → Nat) (k : Nat) (l : List α) : List α := l.filter (key · = k)

theorem mem_atKey {k : Nat} {l : List α} {a : α} : a ∈ atKey key k l ↔ a ∈ l ∧ key a = k := by
  rw [atKey, List.mem_filter, decide_eq_true_iff]

theorem atKey_flatMap {β : Type} (k : Nat) (l : List β) (f : β → List α) :
    atKey key k (l.flatMap f) = l.flatMap fun b => atKey key k (f b) :=
  List.filter_flatMap

theorem mem_iff_of_atKey_eq {l m : List α} (h : ∀ k, atKey key k l = atKey key k m) (a : α) :
    a ∈ l ↔ a ∈ m := by
  have ha : a ∈ atKey key (key a) l ↔ a ∈ atKey key (key a) m := by rw [h]
  simpa only [mem_atKey, and_true] using ha

/-! ### Sorting -/

theorem le_key_trans (a b c : α) (hab : decide (key a ≤ key b) = true)
    (hbc : decide (key b ≤ key c) = true) : decide (key a ≤ key c) = true :=
  decide_eq_true (Nat.le_trans (of_decide_eq_true hab) (of_decide_eq_true hbc))

theorem le_key_total (a b : α) : (decide (key a ≤ key b) || decide (key b ≤ key a)) = true := by
  rw [Bool.or_eq_true, decide_eq_true_iff, decide_eq_true_iff]
  exact Nat.le_total _ _

theorem sortedBy_mergeSort (key : α → Nat) (l : List α) :
    SortedBy key (l.mergeSort fun a b => key a ≤ key b) :=
  (List.pairwise_mergeSort le_key_trans le_key_total l).imp fun h => of_decide_eq_true h

/-- **Sorting keeps what a list holds at a key in its order.** -/
theorem atKey_mergeSort (key : α → Nat) (k : Nat) (l : List α) :
    atKey key k (l.mergeSort fun a b => key a ≤ key b) = atKey key k l := by
  have hequal : (atKey key k l).Pairwise fun a b => decide (key a ≤ key b) = true := by
    rw [List.pairwise_iff_forall_sublist]
    intro a b hab
    have ha := (mem_atKey.mp (hab.subset List.mem_cons_self)).2
    have hb := (mem_atKey.mp (hab.subset (List.mem_cons_of_mem _ List.mem_cons_self))).2
    rw [ha, hb]
    exact decide_eq_true (Nat.le_refl k)
  have hsub := List.sublist_mergeSort le_key_trans le_key_total hequal List.filter_sublist
  have hkept := hsub.filter (key · = k)
  have hagain : (atKey key k l).filter (key · = k) = atKey key k l := by
    rw [atKey, List.filter_filter]
    simp only [Bool.and_self]
  rw [hagain] at hkept
  refine (hkept.eq_of_length ?_).symm
  exact ((List.mergeSort_perm l _).filter _).length_eq.symm

/-! ### Uniqueness -/

/-- The head of a sorted list has the least key. -/
theorem key_le_of_mem {a : α} {l : List α} (h : SortedBy key (a :: l)) {b : α} (hb : b ∈ a :: l) :
    key a ≤ key b := by
  rcases List.mem_cons.mp hb with rfl | hb
  · exact Nat.le_refl _
  · exact List.rel_of_pairwise_cons h hb

theorem cons_inj_of_atKey_eq {a b : α} {l m : List α} (hkey : key a = key b)
    (h : ∀ k, atKey key k (a :: l) = atKey key k (b :: m)) :
    a = b ∧ ∀ k, atKey key k l = atKey key k m := by
  simp only [atKey, List.filter_cons, ← hkey] at h
  have hheads := h (key a)
  simp only [decide_true, if_true, List.cons.injEq] at hheads
  refine ⟨hheads.1, fun k => ?_⟩
  have hk := h k
  split at hk
  · exact (List.cons.inj hk).2
  · exact hk

/-- **A sorted list is determined by what it holds at each key.** -/
theorem eq_of_atKey_eq {l m : List α} (hl : SortedBy key l) (hm : SortedBy key m)
    (h : ∀ k, atKey key k l = atKey key k m) : l = m := by
  induction l generalizing m with
  | nil =>
    cases m with
    | nil => rfl
    | cons b m => cases (mem_iff_of_atKey_eq h b).mpr List.mem_cons_self
  | cons a l ih =>
    cases m with
    | nil => cases (mem_iff_of_atKey_eq h a).mp List.mem_cons_self
    | cons b m =>
      have hab := key_le_of_mem hl ((mem_iff_of_atKey_eq h b).mpr List.mem_cons_self)
      have hba := key_le_of_mem hm ((mem_iff_of_atKey_eq h a).mp List.mem_cons_self)
      obtain ⟨rfl, htails⟩ := cons_inj_of_atKey_eq (Nat.le_antisymm hab hba) h
      rw [ih (List.pairwise_cons.mp hl).2 (List.pairwise_cons.mp hm).2 htails]

end StableSort

end Agenda
