import Agenda.Shell.Filter

/-!
# Sequences and factors of numbers

The numbers from a first one to a last one in steps, as `seq` prints them: with as many digits
behind the point as the first number and the step have. Numbers are kept as integers of their last
digit.

The prime factors of a number, found by trying out one number after the other.
-/

namespace Agenda.Shell.Filter

/-! ## Sequences of numbers -/

structure Decimal where
  /-- The number in units of its last digit. -/
  value : Int
  /-- The digits behind the point that the value has. -/
  places : Nat
  /-- The digits behind the point that are written. -/
  precision : Nat
  /-- The number of signs that it takes when it is written without an exponent. -/
  width : Nat
deriving DecidableEq

namespace Decimal

/-- The number in units of a digit behind its last one. -/
def scaled (decimal : Decimal) (places : Nat) : Int :=
  decimal.value * powerOfTen (places - decimal.places)

/-- A whole number that is written with digits of some base. -/
def ofHex (negative : Bool) (digits : Text) (width : Nat) : Option Decimal :=
  if digits.isEmpty || !digits.all fun c => (Text.hexValue? c).isSome then none
  else
    let n : Int := ofDigits 16 digits
    some ⟨if negative then -n else n, 0, 0, width⟩

/-- A number without its sign. -/
def unsigned? (negative : Bool) (t : Text) (length : Nat) : Option Decimal :=
  let whole := t.takeWhile Char.isDigit
  let behind := t.drop whole.length
  let (hasPoint, behind) := match behind with
    | '.' :: rest => (true, rest)
    | rest => (false, rest)
  let part := if hasPoint then behind.takeWhile Char.isDigit else []
  let behind := behind.drop part.length
  let exponent? : Option (Bool × Int) := match behind with
    | [] => some (false, 0)
    | c :: digits => if c = 'e' ∨ c = 'E' then (numeral? digits).map (true, ·) else none
  match exponent? with
  | none => none
  | some (hasExponent, exponent) =>
    if (whole ++ part).isEmpty ∨ 1000 < exponent.natAbs then none
    else
      let n : Int := Text.natOfDigits (whole ++ part)
      let n := if negative then -n else n
      let shift := exponent - (part.length : Int)
      let value := if 0 < shift then n * powerOfTen shift.natAbs else n
      let pointWidth : Int := if !hasPoint then 0 else if part.isEmpty then -1
        else if whole.isEmpty then 1 else 0
      let exponentWidth : Int := if !hasExponent then 0
        else (if exponent < 0 ∧ (!hasPoint ∨ part.isEmpty) then 1 else 0) + exponent.natAbs -
          (behind.length : Int)
      let precision : Int := if exponent < 0 then part.length + exponent.natAbs
        else part.length - min (part.length : Int) exponent
      some ⟨value, (-shift).toNat, precision.toNat,
        ((length : Int) + pointWidth + exponentWidth).toNat⟩

/-- The number that an argument writes. -/
def of? (t : Text) : Option Decimal :=
  let t := t.dropWhile fun c => isGap c || c == '+'
  let (negative, digits) := match t with
    | '-' :: rest => (true, rest)
    | rest => (false, rest)
  match digits with
  | '0' :: 'x' :: rest => ofHex negative rest t.length
  | digits => unsigned? negative digits t.length

end Decimal

/-- The numbers from a first one to a last one in steps, but not more than are ever printed. -/
def stepsBetween (most : Nat) (first step last : Int) : List Int :=
  let count := if 0 < step then (last - first) / step + 1
    else if step < 0 then (first - last) / (-step) + 1 else 0
  (List.range (min most count.toNat)).map fun k : Nat => first + step * k

structure SequenceForm where
  separator : Text
  /-- Whether all numbers have the same width. -/
  level : Bool
  format : Option Text

namespace SequenceForm

/-- Whether a format has one field for a number. -/
def checkFormat (format : Text) : Except Misuse Unit :=
  let name := Misuse.marked format
  let rec fieldsIn : Nat → Text → Except Misuse Nat
    | 0, _ => .ok 0
    | _, [] => .ok 0
    | fuel + 1, '%' :: rest =>
      if rest.head? = some '%' then fieldsIn fuel rest.tail
      else
        let rest := rest.dropWhile "-+#0 '".toList.contains
        let rest := rest.dropWhile Char.isDigit
        let rest := match rest with
          | '.' :: digits => digits.dropWhile Char.isDigit
          | rest => rest
        let rest := if rest.head? = some 'L' then rest.tail else rest
        match rest with
        | [] => refuse ("format " ++ name ++ " ends in %")
        | c :: rest =>
          if "efgaEFGA".toList.contains c then (fieldsIn fuel rest).map (· + 1)
          else refuse ("format " ++ name ++ " has unknown %" ++ [c] ++ " directive")
    | fuel + 1, _ :: rest => fieldsIn fuel rest
  match fieldsIn (format.length + 1) format with
  | .error misuse => .error misuse
  | .ok 0 => refuse ("format " ++ name ++ " has no % directive")
  | .ok 1 => .ok ()
  | .ok _ => refuse ("format " ++ name ++ " has too many % directives")

def numberOf (operand : Text) : Except Misuse Decimal :=
  let argument (what : Text) : Misuse :=
    .other [("invalid " : Text) ++ what ++ " argument: " ++ Misuse.marked operand] true
  if operand.map Char.toLower = "nan".toList then .error (argument "‘not-a-number’")
  else match Decimal.of? operand with
    | some decimal => .ok decimal
    | none => .error (argument "floating point")

/-- Text filled up with zeros behind its sign. -/
def filledTo (width : Nat) : Text → Text
  | '-' :: digits => '-' :: (List.replicate (width - 1 - digits.length) '0' ++ digits)
  | digits => List.replicate (width - digits.length) '0' ++ digits

/-- The numbers that some operands ask for, as they are printed. -/
def words (form : SequenceForm) (most : Nat) (operands : List Text) :
    Except Misuse (List Text) := do
  let numbers ← operands.mapM numberOf
  let one : Decimal := ⟨1, 0, 0, 1⟩
  let (first, step, last) ← match numbers, operands with
    | [last], _ => pure (one, one, last)
    | [first, last], _ => pure (first, one, last)
    | [first, step, last], _ => pure (first, step, last)
    | [], _ => throw (Misuse.fewOperands none)
    | _, operands => throw (Misuse.excessOperand (operands.getD 3 []))
  if step.value = 0 then
    refuseWithHint ("invalid Zero increment value: " ++ Misuse.marked (operands.getD 1 []))
  let places := max first.places (max step.places last.places)
  let precision := max first.precision step.precision
  let all := stepsBetween most (first.scaled places) (step.scaled places) (last.scaled places)
  let shown (n : Int) : Text :=
    (if n < 0 then ['-'] else []) ++ fixed precision n.natAbs places
  let firstWidth := first.width + (precision - first.precision) +
    (if first.precision = 0 ∧ precision ≠ 0 then 1 else 0)
  let lastWidth := last.width + precision - last.precision +
    (if last.precision = 0 ∧ precision ≠ 0 then 1 else 0) -
    (if last.precision ≠ 0 ∧ precision = 0 then 1 else 0)
  return all.map fun n =>
    match form.format with
    | some format =>
      (piecesFrom .plain ['L'] 0 (raw format)).flatMap fun
        | .text c => [c]
        | .field field _ => field.ofQuantity (.finite (n < 0) n.natAbs places)
        | .unfinished _ | .ends => []
    | none => if form.level then filledTo (max firstWidth lastWidth) (shown n) else shown n

def of (form : SequenceForm) (most : Nat) (operands : List Text) : Except Misuse Text :=
  (form.words most operands).map fun words =>
    if words.isEmpty then [] else Text.join form.separator words ++ ['\n']

def ofOptions (options : Options) : Except Misuse SequenceForm := do
  let format := options.value? 'f'
  match format with
  | some format => checkFormat format
  | none => pure ()
  if format.isSome ∧ options.has 'w' then
    refuseWithHint
      "format string may not be specified when printing equal width strings"
  return { separator := raw (valueOr options 's' "\n"), level := options.has 'w', format }

end SequenceForm

/-! ## Factors of numbers -/

/-- The prime factors of a number from some number on. -/
def factorsFrom : Nat → Nat → Nat → List Nat
  | 0, _, n => if n ≤ 1 then [] else [n]
  | fuel + 1, d, n =>
    if n ≤ 1 then []
    else if n < d * d then [n]
    else if n % d = 0 then d :: factorsFrom fuel d (n / d)
    else factorsFrom fuel (d + 1) n

def factored (n : Nat) : Text :=
  Text.ofNat n ++ ':' :: ((factorsFrom 1000000 2 n).map fun d => ' ' :: Text.ofNat d).flatten

def factorable? (word : Text) : Option Nat :=
  let digits := word.dropWhile fun c => isGap c || c == '+'
  if !digits.isEmpty && digits.all Char.isDigit then some (Text.natOfDigits digits) else none

end Agenda.Shell.Filter
