import Agenda.Calendar.Field
import Agenda.Proofs.Text.Numeral
import Mathlib.Data.List.Forall2

/-!
# Forms of the parts of a moment

A part of a written moment has a form: rows of places, each with the characters that may stand
there, tried in a fixed order (`Moment.Form`). The readers of the parts read their forms, row after
row (`Moment.readMonth_eq` and its like), so a reading is a piece at the front of the text that
fills one of the rows, with the number of its digits (`Moment.Form.mem_read_iff`).

The rows of a form overlap: a row of one digit is filled wherever a row of two is. But where two
rows are filled, the shorter one leaves a digit behind, and what comes behind a part never begins
with one. So a part is read in one way at most that can be gone on from
(`Moment.Form.length_flatMap_read_le`).
-/

namespace Agenda

namespace Moment

/-! ### Forms -/

/-- What may stand at one place of a part. -/
inductive Slot
  | range (first last : Char)
  /-- A decimal digit of any script. -/
  | decimal
deriving Repr, DecidableEq

namespace Slot

/-- Whether a character may stand at a place. -/
def fits : Slot → Char → Bool
  | range first last, c => first ≤ c && c ≤ last
  | decimal, c => Text.isDecimal c

/-- Whether nothing but a digit may stand at a place. -/
def isDigit : Slot → Bool
  | range first last => '0' ≤ first && last ≤ '9'
  | decimal => true

/-- The greatest digit that may stand at a place. -/
def greatest : Slot → Nat
  | range _ last => last.toNat - 48
  | decimal => 9

/-- Whether no character may stand at both of two places. -/
def apart : Slot → Slot → Bool
  | range first last, range first' last' => last < first' || last' < first
  | _, _ => false

variable {slot slot' : Slot} {c : Char}

theorem fits_range_iff {first last : Char} :
    (range first last).fits c = true ↔ first.toNat ≤ c.toNat ∧ c.toNat ≤ last.toNat := by
  simp only [fits, Bool.and_eq_true, decide_eq_true_eq, Char.le_def, UInt32.le_iff_toNat_le]
  rfl

/-- What may stand at a place for digits is worth something, and not too much. -/
theorem exists_value (hslot : slot.isDigit = true) (h : slot.fits c = true) :
    ∃ d, Text.decimalValue? c = some d ∧ d ≤ slot.greatest := by
  cases slot with
  | range first last =>
    obtain ⟨hlow, hhigh⟩ := fits_range_iff.mp h
    simp only [isDigit, Bool.and_eq_true, decide_eq_true_eq, Char.le_def,
      UInt32.le_iff_toNat_le] at hslot
    have hdigit : Text.isDigit c = true :=
      Text.isDigit_iff.mpr ⟨Nat.le_trans hslot.1 hlow, Nat.le_trans hhigh hslot.2⟩
    exact ⟨_, Text.decimalValue?_of_isDigit hdigit, Nat.sub_le_sub_right hhigh 48⟩
  | decimal =>
    obtain ⟨d, hd⟩ := Option.isSome_iff_exists.mp h
    exact ⟨d, hd, Nat.le_of_lt_succ (Text.decimalValue?_lt hd)⟩

theorem isDecimal_of_fits (hslot : slot.isDigit = true) (h : slot.fits c = true) :
    Text.isDecimal c = true := by
  obtain ⟨d, hd, -⟩ := exists_value hslot h
  exact Option.isSome_iff_exists.mpr ⟨d, hd⟩

theorem not_fits_of_apart (hapart : slot.apart slot' = true) (h : slot.fits c = true) :
    slot'.fits c = false := by
  cases slot with
  | decimal => cases hapart
  | range first last =>
    cases slot' with
    | decimal => cases hapart
    | range first' last' =>
      obtain ⟨hlow, hhigh⟩ := fits_range_iff.mp h
      simp only [apart, Bool.or_eq_true, decide_eq_true_eq, Char.lt_def,
        UInt32.lt_iff_toNat_lt] at hapart
      rw [Bool.eq_false_iff, ne_eq, fits_range_iff]
      change last.toNat < first'.toNat ∨ last'.toNat < first.toNat at hapart
      omega

end Slot

/-- Whether a piece of a text fills a row of places. -/
abbrev Fills (slots : List Slot) (piece : Text) : Prop :=
  List.Forall₂ (fun slot c => slot.fits c = true) slots piece

/-- The rows of places that a part may fill, in the order in which they are tried. -/
abbrev Form := List (List Slot)

namespace Form

/-- Four digits. -/
def year : Form := [[.decimal, .decimal, .decimal, .decimal]]

/-- `1` to `12`, below ten with or without a zero. -/
def month : Form :=
  [[.range '1' '1', .range '0' '2'], [.range '0' '0', .range '1' '9'], [.range '1' '9']]

/-- `1` to `31`, below ten with or without a zero or a space. -/
def day : Form :=
  [[.range '3' '3', .range '0' '1'], [.range '1' '2', .decimal], [.range '0' '0', .range '1' '9'],
    [.range '1' '9'], [.range ' ' ' ', .range '1' '9']]

/-- `0` to `23`, with one digit or two. -/
def hour : Form := [[.range '2' '2', .range '0' '3'], [.range '0' '1', .decimal], [.decimal]]

/-- `0` to `59`, with one digit or two. -/
def minute : Form := [[.range '0' '5', .decimal], [.decimal]]

/-- Whether a piece of a text is of a form. -/
def Fits (form : Form) (piece : Text) : Prop :=
  ∃ slots ∈ form, Fills slots piece

end Form

/-- The number that a piece writes: that of its digits. -/
def numeral (piece : Text) : Nat := Text.valueOfDigits (piece.filterMap Text.decimalValue?)

theorem numeral_concat (piece : Text) {c : Char} {d : Nat} (h : Text.decimalValue? c = some d) :
    numeral (piece ++ [c]) = 10 * numeral piece + d := by
  rw [numeral, numeral, List.filterMap_append, Text.valueOfDigits, List.foldl_append,
    ← Text.valueOfDigits]
  simp only [List.filterMap_cons, h, List.filterMap_nil, List.foldl_cons, List.foldl_nil]

theorem numeral_singleton {c : Char} {d : Nat} (h : Text.decimalValue? c = some d) :
    numeral [c] = d := by
  have hconcat := numeral_concat [] h
  rwa [show numeral [] = 0 from rfl, Nat.mul_zero, Nat.zero_add] at hconcat

/-! ### Rows -/

section

variable {slots slots' : List Slot} {slot : Slot} {c : Char} {t piece rest : Text} {n : Nat}

/-- The front of a text that fills a row of places, and the rest. -/
def front? : List Slot → Text → Option (Text × Text)
  | [], t => some ([], t)
  | _ :: _, [] => none
  | slot :: slots, c :: t =>
    if slot.fits c then (front? slots t).map fun (piece, rest) => (c :: piece, rest) else none

theorem exists_of_front?_cons (h : front? (slot :: slots) t = some (piece, rest)) :
    ∃ c behind others, t = c :: behind ∧ slot.fits c = true ∧
      front? slots behind = some (others, rest) ∧ piece = c :: others := by
  cases t with
  | nil => cases h
  | cons c behind =>
    rw [front?] at h
    split at h
    · rename_i hfits
      obtain ⟨⟨others, rest'⟩, hfront, heq⟩ := Option.map_eq_some_iff.mp h
      obtain ⟨rfl, rfl⟩ := Prod.mk.inj heq
      exact ⟨c, behind, others, rfl, hfits, hfront, rfl⟩
    · cases h

theorem front?_eq_some_iff : front? slots t = some (piece, rest) ↔
    Fills slots piece ∧ t = piece ++ rest := by
  induction slots generalizing t piece with
  | nil =>
    rw [front?, Fills, List.forall₂_nil_left_iff, Option.some.injEq, Prod.mk.injEq]
    constructor
    · rintro ⟨rfl, rfl⟩
      exact ⟨rfl, rfl⟩
    · rintro ⟨rfl, rfl⟩
      exact ⟨rfl, rfl⟩
  | cons slot slots ih =>
    constructor
    · intro h
      obtain ⟨c, behind, others, rfl, hfits, hfront, rfl⟩ := exists_of_front?_cons h
      obtain ⟨hothers, rfl⟩ := ih.mp hfront
      exact ⟨.cons hfits hothers, rfl⟩
    · rintro ⟨hrow, rfl⟩
      cases hrow with
      | @cons _ c _ others hfits hothers =>
        rw [List.cons_append, front?, if_pos hfits, ih.mpr ⟨hothers, rfl⟩]
        rfl

theorem front?_append (slots slots' : List Slot) (t : Text) : front? (slots ++ slots') t =
    (front? slots t).bind fun (piece, rest) =>
      (front? slots' rest).map fun (piece', rest') => (piece ++ piece', rest') := by
  induction slots generalizing t with
  | nil => simp [front?]
  | cons slot slots ih =>
    cases t with
    | nil => rfl
    | cons c t =>
      rw [List.cons_append, front?, front?]
      split
      · rw [ih]
        cases front? slots t with
        | none => rfl
        | some parts => simp [Function.comp_def]
      · rfl

/-- The reading of the front of a text that fills a row of places. -/
def readRow (slots : List Slot) (t : Text) : Readings :=
  ((front? slots t).map fun (piece, rest) => (numeral piece, rest)).toList

theorem mem_readRow_iff : (n, rest) ∈ readRow slots t ↔
    ∃ piece, Fills slots piece ∧ t = piece ++ rest ∧ numeral piece = n := by
  simp only [readRow, Option.mem_toList, Option.map_eq_some_iff, Prod.exists, Prod.mk.injEq,
    front?_eq_some_iff]
  constructor
  · rintro ⟨piece, behind, ⟨hfits, ht⟩, hn, rfl⟩
    exact ⟨piece, hfits, ht, hn⟩
  · rintro ⟨piece, hfits, ht, hn⟩
    exact ⟨piece, rest, ⟨hfits, ht⟩, hn, rfl⟩

/-! ### The readers read rows -/

theorem readAny_eq : readAny = readRow [.decimal] := by
  funext t
  cases t with
  | nil => rfl
  | cons c rest =>
    cases hvalue : Text.decimalValue? c with
    | none => simp [readAny, readRow, front?, Slot.fits, Text.isDecimal, hvalue]
    | some d =>
      simp [readAny, readRow, front?, Slot.fits, Text.isDecimal, hvalue, numeral_singleton hvalue]

theorem readPlain_eq {low high : Nat} (hle : low ≤ high) (hhigh : high < 10) :
    readPlain low high = readRow [.range (Nat.digitChar low) (Nat.digitChar high)] := by
  have hlow : low < 10 := Nat.lt_of_le_of_lt hle hhigh
  funext t
  cases t with
  | nil => rfl
  | cons c rest =>
    have hdigit : c.isDigit = true ↔ 48 ≤ c.toNat ∧ c.toNat ≤ 57 := Text.isDigit_iff
    have hfits : (Slot.range (Nat.digitChar low) (Nat.digitChar high)).fits c = true ↔
        48 + low ≤ c.toNat ∧ c.toNat ≤ 48 + high := by
      rw [Slot.fits_range_iff, Text.toNat_digitChar hlow, Text.toNat_digitChar hhigh]
    by_cases hbounds : 48 + low ≤ c.toNat ∧ c.toNat ≤ 48 + high
    · have hten : 48 ≤ c.toNat ∧ c.toNat ≤ 57 := by omega
      have hvalue := Text.decimalValue?_of_isDigit (Text.isDigit_iff.mpr hten)
      rw [readPlain, if_pos ⟨hdigit.mpr hten, by omega, by omega⟩]
      simp [readRow, front?, hfits.mpr hbounds, numeral_singleton hvalue]
    · rw [readPlain, if_neg]
      · simp [readRow, front?, mt hfits.mp hbounds]
      · rw [hdigit]
        omega

/-- A digit more is read behind a row. -/
theorem readTwo_readRow (hslot : slot.isDigit = true) :
    readTwo (readRow slots) (readRow [slot]) = readRow (slots ++ [slot]) := by
  funext t
  rw [readTwo, readRow, readRow, front?_append]
  cases front? slots t with
  | none => rfl
  | some parts =>
    obtain ⟨piece, rest⟩ := parts
    cases rest with
    | nil => rfl
    | cons c rest =>
      by_cases hfits : slot.fits c = true
      · obtain ⟨d, hd, -⟩ := Slot.exists_value hslot hfits
        simp [readRow, front?, hfits, numeral_concat piece hd, numeral_singleton hd]
      · simp [readRow, front?, hfits]

/-- A mark that is no digit is one place more in front of a row. -/
theorem readAfter_readRow {mark : Char} (hmark : Text.decimalValue? mark = none) :
    readAfter mark (readRow slots) = readRow (.range mark mark :: slots) := by
  funext t
  cases t with
  | nil => rfl
  | cons c t =>
    have hfits : (Slot.range mark mark).fits c = true ↔ c = mark := by
      rw [Slot.fits_range_iff, ← Char.toNat_inj]
      omega
    rw [readAfter]
    by_cases hc : c = mark
    · have hnumeral : ∀ piece, numeral (mark :: piece) = numeral piece := fun piece => by
        rw [numeral, List.filterMap_cons_none hmark, ← numeral]
      subst hc
      rw [if_pos rfl, readRow, readRow, front?, if_pos (hfits.mpr rfl)]
      cases front? slots t with
      | none => rfl
      | some parts => simp [hnumeral]
    · rw [if_neg hc, readRow, front?, if_neg (mt hfits.mp hc)]
      rfl

end

/-- The readings of the front of a text that is of a form, row after row. -/
def Form.read (form : Form) (t : Text) : Readings := form.flatMap (readRow · t)

theorem Form.mem_read_iff {form : Form} {t rest : Text} {n : Nat} : (n, rest) ∈ form.read t ↔
    ∃ piece, form.Fits piece ∧ t = piece ++ rest ∧ numeral piece = n := by
  simp only [Form.read, List.mem_flatMap, mem_readRow_iff, Form.Fits]
  constructor
  · rintro ⟨slots, hslots, piece, hfits, ht, hn⟩
    exact ⟨piece, ⟨slots, hslots, hfits⟩, ht, hn⟩
  · rintro ⟨piece, ⟨slots, hslots, hfits⟩, ht, hn⟩
    exact ⟨slots, hslots, piece, hfits, ht, hn⟩

theorem readYear_eq : readYear = Form.year.read := by
  funext t
  rw [readYear, readAny_eq, readTwo_readRow rfl, readTwo_readRow rfl, readTwo_readRow rfl]
  exact (List.flatMap_singleton ..).symm

theorem readMonth_eq : readMonth = Form.month.read := by
  funext t
  rw [readMonth]
  simp (disch := decide) only [readPlain_eq, readTwo_readRow]
  simp only [Form.read, Form.month, List.flatMap_cons, List.flatMap_nil, List.append_nil,
    List.append_assoc]
  rfl

theorem readDay_eq : readDay = Form.day.read := by
  funext t
  rw [readDay, readAny_eq]
  simp (disch := decide) only [readPlain_eq, readTwo_readRow, readAfter_readRow]
  simp only [Form.read, Form.day, List.flatMap_cons, List.flatMap_nil, List.append_nil,
    List.append_assoc]
  rfl

theorem readHour_eq : readHour = Form.hour.read := by
  funext t
  rw [readHour, readAny_eq]
  simp (disch := decide) only [readPlain_eq, readTwo_readRow]
  simp only [Form.read, Form.hour, List.flatMap_cons, List.flatMap_nil, List.append_nil,
    List.append_assoc]
  rfl

theorem readMinute_eq : readMinute = Form.minute.read := by
  funext t
  rw [readMinute, readAny_eq]
  simp (disch := decide) only [readPlain_eq, readTwo_readRow]
  simp only [Form.read, Form.minute, List.flatMap_cons, List.flatMap_nil, List.append_nil]
  rfl

/-! ### Digits of a part -/

/-- What fills places for digits is made of digits. -/
theorem isDecimal_of_fills {slots : List Slot} {piece : Text} (h : Fills slots piece)
    (hslots : ∀ slot ∈ slots, slot.isDigit = true) :
    ∀ c ∈ piece, Text.isDecimal c = true := by
  induction h with
  | nil => exact nofun
  | cons hfits _ ih =>
    obtain ⟨hslot, hrest⟩ := List.forall_mem_cons.mp hslots
    exact List.forall_mem_cons.mpr ⟨Slot.isDecimal_of_fits hslot hfits, ih hrest⟩

/-- The greatest number that fills a row of places for digits. -/
def greatestOf (slots : List Slot) : Nat := Text.valueOfDigits (slots.map Slot.greatest)

theorem numeral_le {slots : List Slot} {piece : Text} (h : Fills slots piece)
    (hslots : ∀ slot ∈ slots, slot.isDigit = true) : numeral piece ≤ greatestOf slots := by
  have hfold : ∀ m n, m ≤ n →
      (piece.filterMap Text.decimalValue?).foldl (fun value digit => 10 * value + digit) m ≤
        (slots.map Slot.greatest).foldl (fun value digit => 10 * value + digit) n := by
    induction h with
    | nil => exact fun m n hle => hle
    | cons hfits _ ih =>
      intro m n hle
      obtain ⟨hslot, hrest⟩ := List.forall_mem_cons.mp hslots
      obtain ⟨d, hd, hdle⟩ := Slot.exists_value hslot hfits
      rw [List.filterMap_cons_some hd, List.map_cons, List.foldl_cons, List.foldl_cons]
      exact ih hrest _ _ (by omega)
  exact hfold 0 0 (Nat.le_refl 0)

namespace Form.Fits

variable {form : Form} {piece : Text}

/-- A part that has places for digits alone is made of digits. -/
theorem isDecimal (h : form.Fits piece)
    (hform : ∀ slots ∈ form, ∀ slot ∈ slots, slot.isDigit = true) :
    ∀ c ∈ piece, Text.isDecimal c = true := by
  obtain ⟨slots, hslots, hfits⟩ := h
  exact isDecimal_of_fills hfits (hform slots hslots)

/-- A part that may begin with something else has digits behind its first character. -/
theorem exists_eq_cons (h : form.Fits piece)
    (hform : ∀ slots ∈ form, slots ≠ [] ∧ ∀ slot ∈ slots.tail, slot.isDigit = true) :
    ∃ first others, piece = first :: others ∧ ∀ c ∈ others, Text.isDecimal c = true := by
  obtain ⟨slots, hslots, hfits⟩ := h
  obtain ⟨hne, htail⟩ := hform slots hslots
  cases hfits with
  | nil => exact absurd rfl hne
  | cons hfirst hothers => exact ⟨_, _, rfl, isDecimal_of_fills hothers htail⟩

/-- The number of a part is below whatever none of its rows can reach. -/
theorem numeral_lt {bound : Nat} (h : form.Fits piece)
    (hform : ∀ slots ∈ form, (∀ slot ∈ slots, slot.isDigit = true) ∧ greatestOf slots < bound) :
    numeral piece < bound := by
  obtain ⟨slots, hslots, hfits⟩ := h
  obtain ⟨hdigits, hlt⟩ := hform slots hslots
  exact Nat.lt_of_le_of_lt (numeral_le hfits hdigits) hlt

end Form.Fits

/-! ### A part that is gone on from -/

section

variable {α β : Type}

/-- Where of any two elements one leads to nothing and each leads to one thing at most, all of them
lead to one thing at most. -/
theorem length_flatMap_le_one {l : List α} {f : α → List β}
    (hpair : l.Pairwise fun a b => f a = [] ∨ f b = []) (hone : ∀ a ∈ l, (f a).length ≤ 1) :
    (l.flatMap f).length ≤ 1 := by
  induction hpair with
  | nil => exact Nat.zero_le 1
  | @cons a rest hfirst _ ih =>
    obtain ⟨ha, hrest⟩ := List.forall_mem_cons.mp hone
    rw [List.flatMap_cons]
    by_cases hnil : f a = []
    · rw [hnil, List.nil_append]
      exact ih hrest
    · have hnone : rest.flatMap f = [] :=
        List.flatMap_eq_nil_iff.mpr fun b hb => (hfirst b hb).resolve_left hnil
      rwa [hnone, List.append_nil]

/-- Whether of two rows at most one is filled by the front of a text and gone on from: they do not
begin with the same character, or the longer one has a place for a digit where the shorter one
ends. -/
def settle (slots slots' : List Slot) : Bool :=
  (match slots, slots' with
    | slot :: _, slot' :: _ => slot.apart slot'
    | _, _ => false) ||
  slots[slots'.length]?.any Slot.isDigit || slots'[slots.length]?.any Slot.isDigit

/-- Whether nothing goes on from a rest that begins with a digit. -/
def Stops (next : Nat × Text → List β) : Prop :=
  ∀ n c rest, Text.isDecimal c = true → next (n, c :: rest) = []

variable {slots slots' : List Slot} {slot slot' : Slot} {t piece piece' rest rest' : Text}
  {next : Nat × Text → List β}

/-- Behind the shorter row stands what fills the next place of the longer one. -/
theorem exists_eq_cons_of_front? (h : front? slots t = some (piece, rest))
    (h' : front? slots' t = some (piece', rest')) (hslot : slots'[slots.length]? = some slot) :
    ∃ c behind, rest = c :: behind ∧ slot.fits c = true := by
  induction slots generalizing slots' t piece piece' with
  | nil =>
    obtain ⟨others, rfl⟩ : ∃ others, slots' = slot :: others := by
      cases slots' with
      | nil => cases hslot
      | cons first others => exact ⟨others, by rw [Option.some.inj hslot]⟩
    obtain ⟨c, behind, -, rfl, hfits, -, -⟩ := exists_of_front?_cons h'
    obtain ⟨-, rfl⟩ := Prod.mk.inj (Option.some.inj h)
    exact ⟨c, behind, rfl, hfits⟩
  | cons first slots ih =>
    obtain ⟨c, behind, others, rfl, -, hfront, -⟩ := exists_of_front?_cons h
    cases slots' with
    | nil => cases hslot
    | cons first' slots' =>
      obtain ⟨c', behind', others', heq, -, hfront', -⟩ := exists_of_front?_cons h'
      obtain ⟨-, rfl⟩ := List.cons.inj heq
      exact ih hfront hfront' hslot

theorem front?_eq_none_of_apart (hapart : slot.apart slot' = true)
    (h : front? (slot :: slots) t = some (piece, rest)) : front? (slot' :: slots') t = none := by
  obtain ⟨c, behind, -, rfl, hfits, -, -⟩ := exists_of_front?_cons h
  rw [front?, if_neg (Bool.eq_false_iff.mp (Slot.not_fits_of_apart hapart hfits))]

theorem flatMap_readRow (h : front? slots t = some (piece, rest)) :
    (readRow slots t).flatMap next = next (numeral piece, rest) := by
  rw [readRow, h, Option.map_some, Option.toList_some, List.flatMap_singleton]

theorem flatMap_readRow_of_none (h : front? slots t = none) :
    (readRow slots t).flatMap next = [] := by
  rw [readRow, h]
  rfl

/-- The shorter one of two rows is not gone on from where the longer one goes on with a digit. -/
theorem flatMap_readRow_eq_nil (hstops : Stops next) (h : front? slots t = some (piece, rest))
    (h' : front? slots' t = some (piece', rest')) (hslot : slots'[slots.length]? = some slot)
    (hdigit : slot.isDigit = true) : (readRow slots t).flatMap next = [] := by
  obtain ⟨c, behind, rfl, hfits⟩ := exists_eq_cons_of_front? h h' hslot
  rw [flatMap_readRow h]
  exact hstops _ _ _ (Slot.isDecimal_of_fits hdigit hfits)

/-- One of two settled rows leads to nothing. -/
theorem flatMap_readRow_of_settle (hstops : Stops next) (hsettle : settle slots slots' = true)
    (t : Text) : (readRow slots t).flatMap next = [] ∨ (readRow slots' t).flatMap next = [] := by
  cases hfront : front? slots t with
  | none => exact .inl (flatMap_readRow_of_none hfront)
  | some parts =>
    cases hfront' : front? slots' t with
    | none => exact .inr (flatMap_readRow_of_none hfront')
    | some parts' =>
      simp only [settle, Bool.or_eq_true, Option.any_eq_true] at hsettle
      obtain (hapart | ⟨slot, hslot, hdigit⟩) | ⟨slot, hslot, hdigit⟩ := hsettle
      · cases slots with
        | nil => cases hapart
        | cons slot slots =>
          cases slots' with
          | nil => cases hapart
          | cons slot' slots' =>
            rw [front?_eq_none_of_apart hapart hfront] at hfront'
            cases hfront'
      · exact .inr (flatMap_readRow_eq_nil hstops hfront' hfront hslot hdigit)
      · exact .inl (flatMap_readRow_eq_nil hstops hfront hfront' hslot hdigit)

/-- A part is read in one way at most that what follows can go on from. -/
theorem Form.length_flatMap_read_le {form : Form}
    (hform : form.Pairwise fun slots slots' => settle slots slots' = true) (hstops : Stops next)
    (hone : ∀ reading, (next reading).length ≤ 1) (t : Text) :
    ((form.read t).flatMap next).length ≤ 1 := by
  rw [Form.read, List.flatMap_assoc]
  refine length_flatMap_le_one (hform.imp fun hsettle => ?_) fun slots _ => ?_
  · exact flatMap_readRow_of_settle hstops hsettle t
  · cases hfront : front? slots t with
    | none =>
      rw [flatMap_readRow_of_none hfront]
      exact Nat.zero_le 1
    | some parts =>
      rw [flatMap_readRow hfront]
      exact hone _

/-- A part that begins with a digit is not read where a blank stands. -/
theorem Form.read_eq_nil {form : Form} {c : Char}
    (hform : ∀ slots ∈ form, slots ≠ [] ∧ ∀ slot ∈ slots, slot.isDigit = true)
    (hblank : Text.isBlank c = true) (rest : Text) : form.read (c :: rest) = [] := by
  rw [Form.read, List.flatMap_eq_nil_iff]
  intro slots hslots
  obtain ⟨hne, hdigits⟩ := hform slots hslots
  obtain ⟨slot, others, rfl⟩ := List.exists_cons_of_ne_nil hne
  have hfits : ¬ slot.fits c = true := by
    intro hfits
    have hdigit := Slot.isDecimal_of_fits (hdigits slot List.mem_cons_self) hfits
    rw [Text.isDecimal_of_isBlank hblank] at hdigit
    cases hdigit
  rw [readRow, front?, if_neg hfits]
  rfl

end

end Moment

end Agenda
