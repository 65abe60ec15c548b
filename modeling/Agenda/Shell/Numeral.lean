import Agenda.Shell.Escape

/-!
# Numbers in words of scripts

Integers in base ten, eight or sixteen, and decimal numbers, as words write them; and the numbers
with a limited count of binary digits that are next to those.
-/

namespace Agenda.Shell

/-- White space around a numeral. -/
def isGap (c : Char) : Bool := c == ' ' || ('\t' ≤ c && c ≤ '\r')

/-- The integer that an argument writes; other text is worth zero. -/
def integerOf (t : Text) : Int :=
  match t with
  | '-' :: rest => -(Text.natOfDigits (rest.takeWhile Char.isDigit) : Int)
  | '+' :: rest => Text.natOfDigits (rest.takeWhile Char.isDigit)
  | t => Text.natOfDigits (t.takeWhile Char.isDigit)

/-- The integer that a whole word writes, if it is a numeral. -/
def numeral? (t : Text) : Option Int :=
  let word := ((t.dropWhile isGap).reverse.dropWhile isGap).reverse
  let digits := match word with
    | '-' :: rest | '+' :: rest => rest
    | word => word
  if !digits.isEmpty && digits.all Char.isDigit then some (integerOf word) else none

/-- Whether a numeral is negative, and what is behind its sign. -/
def signOf (t : Text) : Bool × Text :=
  match t.dropWhile isGap with
  | '-' :: rest => (true, rest)
  | '+' :: rest => (false, rest)
  | rest => (false, rest)

/-- The integer at the start of a word, in base sixteen behind `0x` and in base eight behind a zero,
and what is behind it. -/
def integerAt? (t : Text) : Option (Int × Text) :=
  let (negative, t) := signOf t
  let found (base : Nat) (isGood : Char → Bool) (t : Text) : Option (Int × Text) :=
    let digits := t.takeWhile isGood
    let n : Int := ofDigits base digits
    if digits.isEmpty then none
    else some (if negative then -n else n, t.drop digits.length)
  match t with
  | '0' :: x :: c :: rest =>
    if (x = 'x' ∨ x = 'X') ∧ isHex c then found 16 isHex (c :: rest) else found 8 isOctal t
  | '0' :: _ => found 8 isOctal t
  | t => found 10 Char.isDigit t

/-- A number, which may be too great for all digits or none at all. A finite one is given by its
digits and by how many of them are behind the point. -/
inductive Quantity
  | finite (negative : Bool) (digits places : Nat)
  | infinite (negative : Bool)
  | undefined (negative : Bool)
deriving DecidableEq

def powerOfTen : Nat → Nat
  | 0 => 1
  | zeros + 1 => 10 * powerOfTen zeros

/-- The greatest power of ten that counts in a numeral. -/
def mostZeros : Nat := 5000

namespace Quantity

def ofInt (n : Int) : Quantity := .finite (n < 0) n.natAbs 0

/-- Digits times a power of a base that is two or ten; a negative power of two is written with
powers of five. -/
def ofPower (negative : Bool) (digits : Nat) (base : Nat) (power : Int) : Quantity :=
  match power with
  | .ofNat power => .finite negative (digits * Nat.pow base power) 0
  | .negSucc power =>
    .finite negative (digits * if base = 2 then Nat.pow 5 (power + 1) else 1) (power + 1)

/-- The exponent behind a letter, and what is behind it; none counts as zero. -/
def powerAt (isMark : Char → Bool) (t : Text) : Int × Text :=
  match t with
  | [] => (0, [])
  | mark :: rest =>
    let digits := match rest with
      | '-' :: digits | '+' :: digits => digits
      | digits => digits
    if isMark mark && (digits.headD mark).isDigit then
      (max (-(mostZeros : Int)) (min (integerOf rest) mostZeros), digits.dropWhile Char.isDigit)
    else (0, t)

/-- The quantity at the start of a word, and what is behind it. -/
def at? (t : Text) : Option (Quantity × Text) :=
  let (negative, t) := signOf t
  let startsWith (word : Text) : Bool := Text.startsWith word (t.map Char.toLower)
  let parts (isGood : Char → Bool) (t : Text) : Text × Text × Text :=
    let whole := t.takeWhile isGood
    match t.drop whole.length with
    | '.' :: rest => (whole, rest.takeWhile isGood, rest.dropWhile isGood)
    | rest => (whole, [], rest)
  let inHex : Option (Quantity × Text) :=
    let (whole, places, rest) := parts isHex (t.drop 2)
    let (power, rest) := powerAt (fun c => c = 'p' || c = 'P') rest
    if !startsWith "0x" || (whole ++ places).isEmpty then none
    else some (ofPower negative (ofDigits 16 (whole ++ places)) 2 (power - 4 * places.length), rest)
  let (whole, places, rest) := parts Char.isDigit t
  let (power, behind) := powerAt (fun c => c = 'e' || c = 'E') rest
  if startsWith "infinity" then some (.infinite negative, t.drop 8)
  else if startsWith "inf" then some (.infinite negative, t.drop 3)
  else if startsWith "nan" then some (.undefined negative, t.drop 3)
  else if inHex.isSome then inHex
  else if (whole ++ places).isEmpty then none
  else
    some (ofPower negative (Text.natOfDigits (whole ++ places)) 10 (power - places.length), behind)

end Quantity

/-- The integer next to a fraction; of two that are as near, the even one. -/
def nearest (n d : Nat) : Nat :=
  let whole := n / d
  let twice := 2 * (n % d)
  if d < twice ∨ (twice = d ∧ whole % 2 = 1) then whole + 1 else whole

/-- Which binary numbers there are: how many digits they have, the exponent of the smallest one, and
the exponent of the power of two from which on they are too great. -/
structure Binary where
  digits : Nat
  least : Int
  most : Nat

namespace Binary

/-- Numbers of 64 bits. -/
def double : Binary := ⟨53, -1074, 1024⟩

/-- Numbers of 80 bits. -/
def extended : Binary := ⟨64, -16445, 16384⟩

/-- The binary number next to a fraction that is not zero: an integer and the exponent of the power
of two that it is multiplied by. -/
def round (binary : Binary) (n d : Nat) : Nat × Int :=
  let scaled (power : Int) : Nat × Nat :=
    match power with
    | .ofNat power => (n, d * Nat.pow 2 power)
    | .negSucc power => (n * Nat.pow 2 (power + 1), d)
  let power : Int := (Nat.log2 n : Int) - Nat.log2 d - binary.digits
  let (top, bottom) := scaled power
  let power := if Nat.pow 2 binary.digits * bottom ≤ top then power + 1 else power
  let power := max power binary.least
  let (top, bottom) := scaled power
  (nearest top bottom, power)

/-- The number next to a quantity, and whether that is too great. -/
def of (binary : Binary) (quantity : Quantity) : Quantity × Bool :=
  match quantity with
  | .finite negative digits places =>
    if digits = 0 then (quantity, false)
    else
      let (n, power) := binary.round digits (powerOfTen places)
      if 0 ≤ power ∧ Nat.pow 2 (binary.most - power.toNat) ≤ n then (.infinite negative, true)
      else (.ofPower negative n 2 power, false)
  | quantity => (quantity, false)

example : double.of (.finite false 1 1) =
    (.finite false 10000000000000000555111512312578270211815834045410156250 56, false) := by
  decide +kernel

end Binary

end Agenda.Shell
