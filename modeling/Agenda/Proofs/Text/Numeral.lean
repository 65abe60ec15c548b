import Agenda.Proofs.Text.Trim
import Agenda.Text.Digit
import Mathlib.Algebra.Group.Nat.Defs

/-!
# Numerals, digit by digit

A numeral filled up on the left is the row of its digits, as many of them as its width says, as long
as the number has no more (`padNat_two`, `padNat_four`). Every character of a numeral is one of the
ten digits; such a digit is read as what it is worth and is not a blank. No digit of another script
is a blank either (`isBlank_of_decimalValue?`).
-/

namespace Agenda.Text

/-! ### Digits -/

theorem isDigit_iff {c : Char} : isDigit c = true ↔ 48 ≤ c.toNat ∧ c.toNat ≤ 57 := by
  simp only [isDigit, Bool.and_eq_true, decide_eq_true_eq, Char.le_def, UInt32.le_iff_toNat_le]
  rfl

theorem isDigit_of_isDigit {c : Char} (h : c.isDigit = true) : isDigit c = true := by
  simp only [Char.isDigit, Bool.and_eq_true, decide_eq_true_eq, ge_iff_le,
    UInt32.le_iff_toNat_le] at h
  exact isDigit_iff.mpr h

theorem isBlank_of_isDigit {c : Char} (h : isDigit c = true) : isBlank c = false := by
  obtain ⟨hlow, hhigh⟩ := isDigit_iff.mp h
  simp only [isBlank, Bool.or_eq_false_iff, Bool.and_eq_false_iff, decide_eq_false_iff_not,
    beq_eq_false_iff_ne]
  omega

/-- What every digit character is, found by looking at all ten of them. -/
theorem digitChar_spec : ∀ d < 10, isDigit (Nat.digitChar d) = true ∧
    (Nat.digitChar d).isDigit = true ∧ (Nat.digitChar d).toNat = 48 + d ∧
    decimalValue? (Nat.digitChar d) = some d := by
  decide +kernel

theorem isDigit_digitChar {d : Nat} (h : d < 10) : isDigit (Nat.digitChar d) = true :=
  (digitChar_spec d h).1

theorem toNat_digitChar {d : Nat} (h : d < 10) : (Nat.digitChar d).toNat = 48 + d :=
  (digitChar_spec d h).2.2.1

theorem decimalValue?_digitChar {d : Nat} (h : d < 10) :
    decimalValue? (Nat.digitChar d) = some d :=
  (digitChar_spec d h).2.2.2

/-! ### Decimal digits of all scripts -/

section

variable {c : Char} {d : Nat}

/-- Where the digits of a script may not lie for none of them to be a blank, found by looking at all
scripts. -/
theorem decimalZeros_spec : ∀ first ∈ decimalZeros, 0x30 ≤ first ∧
    (first + 10 ≤ 0x85 ∨ 0xA0 < first) ∧ (first + 10 ≤ 0x1680 ∨ 0x1680 < first) ∧
    (first + 10 ≤ 0x2000 ∨ 0x205F < first) ∧ (first + 10 ≤ 0x3000 ∨ 0x3000 < first) := by
  decide

theorem exists_of_decimalValue? (h : decimalValue? c = some d) :
    ∃ first ∈ decimalZeros, first ≤ c.toNat ∧ c.toNat < first + 10 ∧ d = c.toNat - first := by
  obtain ⟨first, hfirst, hvalue⟩ := List.exists_of_findSome?_eq_some h
  split at hvalue
  · rename_i hbounds
    exact ⟨first, hfirst, hbounds.1, hbounds.2, (Option.some.inj hvalue).symm⟩
  · cases hvalue

theorem decimalValue?_lt (h : decimalValue? c = some d) : d < 10 := by
  obtain ⟨first, -, hlow, hhigh, rfl⟩ := exists_of_decimalValue? h
  omega

theorem isBlank_of_decimalValue? (h : decimalValue? c = some d) : isBlank c = false := by
  obtain ⟨first, hfirst, hlow, hhigh, -⟩ := exists_of_decimalValue? h
  obtain ⟨hstart, hbounds⟩ := decimalZeros_spec first hfirst
  simp only [isBlank, Bool.or_eq_false_iff, Bool.and_eq_false_iff, decide_eq_false_iff_not,
    beq_eq_false_iff_ne]
  omega

/-- Whether a character is a decimal digit of any script. -/
def isDecimal (c : Char) : Bool := (decimalValue? c).isSome

theorem isBlank_of_isDecimal (h : isDecimal c = true) : isBlank c = false := by
  obtain ⟨d, hd⟩ := Option.isSome_iff_exists.mp h
  exact isBlank_of_decimalValue? hd

theorem isDecimal_of_isBlank (h : isBlank c = true) : isDecimal c = false := by
  rw [Bool.eq_false_iff]
  intro hdecimal
  rw [isBlank_of_isDecimal hdecimal] at h
  cases h

theorem decimalValue?_of_isDigit (h : isDigit c = true) :
    decimalValue? c = some (c.toNat - 48) := by
  obtain ⟨hlow, hhigh⟩ := isDigit_iff.mp h
  have hlt : c.toNat - 48 < 10 := by omega
  have hchar : Nat.digitChar (c.toNat - 48) = c := by
    apply Char.toNat_inj.mp
    rw [toNat_digitChar hlt]
    omega
  have hvalue := decimalValue?_digitChar hlt
  rwa [hchar] at hvalue

end

/-! ### Numerals -/

theorem ofNat_ne_nil (n : Nat) : ofNat n ≠ [] := Nat.toDigits_ne_nil

theorem isDigit_of_mem_ofNat {n : Nat} {c : Char} (h : c ∈ ofNat n) : isDigit c = true :=
  isDigit_of_isDigit (Nat.isDigit_of_mem_toDigits (by decide) (by decide) h)

theorem length_ofNat_le {n width : Nat} (hwidth : 0 < width) (h : n < 10 ^ width) :
    (ofNat n).length ≤ width :=
  (Nat.length_toDigits_le_iff (by decide) hwidth).mpr h

theorem ofNat_of_lt {n : Nat} (h : n < 10) : ofNat n = [Nat.digitChar n] :=
  Nat.toDigits_of_lt_base h

theorem ofNat_of_le {n : Nat} (h : 10 ≤ n) :
    ofNat n = ofNat (n / 10) ++ [Nat.digitChar (n % 10)] :=
  Nat.toDigits_of_base_le (by decide) h

theorem padNat_one {n : Nat} (h : n < 10) : padNat 1 n = [Nat.digitChar n] := by
  rw [padNat, ofNat_of_lt h]
  rfl

/-- The last digit comes off the end of a numeral that is filled up. -/
theorem padNat_succ (width n : Nat) :
    padNat (width + 2) n = padNat (width + 1) (n / 10) ++ [Nat.digitChar (n % 10)] := by
  by_cases h : n < 10
  · have hdiv : n / 10 = 0 := Nat.div_eq_of_lt h
    have hzero : ofNat 0 = ['0'] := ofNat_of_lt (by decide)
    rw [padNat, padNat, ofNat_of_lt h, hdiv, hzero, Nat.mod_eq_of_lt h]
    simp only [List.length_cons, List.length_nil, Nat.add_sub_cancel, Nat.zero_add,
      ← List.replicate_succ', show width + 2 - 1 = width + 1 from rfl]
  · have hten : 10 ≤ n := by omega
    rw [padNat, padNat, ofNat_of_le hten, List.length_append, List.length_singleton,
      show width + 2 - ((ofNat (n / 10)).length + 1) = width + 1 - (ofNat (n / 10)).length by omega,
      List.append_assoc]

theorem padNat_two {n : Nat} (h : n < 100) :
    padNat 2 n = [Nat.digitChar (n / 10), Nat.digitChar (n % 10)] := by
  rw [padNat_succ, padNat_one (by omega)]
  rfl

theorem padNat_four {n : Nat} (h : n < 10000) :
    padNat 4 n = [Nat.digitChar (n / 1000), Nat.digitChar (n / 100 % 10),
      Nat.digitChar (n / 10 % 10), Nat.digitChar (n % 10)] := by
  rw [padNat_succ, padNat_succ, padNat_succ, padNat_one (by omega),
    show n / 10 / 10 / 10 = n / 1000 by omega, show n / 10 / 10 % 10 = n / 100 % 10 by omega]
  rfl

theorem isDigit_of_mem_padNat {width n : Nat} {c : Char} (h : c ∈ padNat width n) :
    isDigit c = true := by
  rw [padNat, List.mem_append] at h
  rcases h with hzero | hdigit
  · rw [List.eq_of_mem_replicate hzero]
    decide
  · exact isDigit_of_mem_ofNat hdigit

/-- A row of digits has no blanks at its ends. -/
theorem trim_of_isDigit {t : Text} (h : ∀ c ∈ t, isDigit c = true) : trim t = t :=
  trim_of_forall fun c hc => isBlank_of_isDigit (h c hc)

end Agenda.Text
