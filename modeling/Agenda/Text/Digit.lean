import Agenda.Text.Basic

/-!
# Decimal digits, numerals and integers

Which characters are decimal digits and what they are worth, and the numerals of natural numbers
and integers in the ten digits `0` to `9`.

How an integer is written where a user types one: digits of any script, with single underscores
between them, behind an optional sign, and blanks around it all, separators of information apart. A
number with too many digits is refused.
-/

namespace Agenda.Text

/-! ## Decimal digits and numerals -/

/-- The digit zero of every script that Unicode gives decimal digits; the digits one to nine follow
each of them in order. -/
def decimalZeros : List Nat := [
  0x30, 0x660, 0x6F0, 0x7C0, 0x966, 0x9E6, 0xA66, 0xAE6, 0xB66, 0xBE6,
  0xC66, 0xCE6, 0xD66, 0xDE6, 0xE50, 0xED0, 0xF20, 0x1040, 0x1090, 0x17E0,
  0x1810, 0x1946, 0x19D0, 0x1A80, 0x1A90, 0x1B50, 0x1BB0, 0x1C40, 0x1C50, 0xA620,
  0xA8D0, 0xA900, 0xA9D0, 0xA9F0, 0xAA50, 0xABF0, 0xFF10, 0x104A0, 0x10D30, 0x11066,
  0x110F0, 0x11136, 0x111D0, 0x112F0, 0x11450, 0x114D0, 0x11650, 0x116C0, 0x11730, 0x118E0,
  0x11950, 0x11C50, 0x11D50, 0x11DA0, 0x16A60, 0x16AC0, 0x16B50, 0x1D7CE, 0x1D7D8, 0x1D7E2,
  0x1D7EC, 0x1D7F6, 0x1E140, 0x1E2F0, 0x1E950, 0x1FBF0]

/-- What a decimal digit of any script is worth. -/
def decimalValue? (c : Char) : Option Nat :=
  decimalZeros.findSome? fun first =>
    if first ≤ c.toNat ∧ c.toNat < first + 10 then some (c.toNat - first) else none

/-- The digits `0` to `9` alone. -/
def isDigit (c : Char) : Bool := '0' ≤ c && c ≤ '9'

/-- What a hexadecimal digit is worth. -/
def hexValue? (c : Char) : Option Nat := "0123456789abcdef".toList.idxOf? c.toLower

/-- The number that a row of decimal digits writes, most significant digit first. -/
def valueOfDigits (digits : List Nat) : Nat :=
  digits.foldl (fun value digit => 10 * value + digit) 0

/-- The number that a row of the digits `0` to `9` writes. -/
def natOfDigits (t : Text) : Nat := Nat.ofDigitChars 10 t 0

/-- The decimal numeral of a natural number, without leading zeros. -/
def ofNat (n : Nat) : Text := Nat.toDigits 10 n

/-- The decimal numeral of an integer, with a minus sign below zero. -/
def ofInt (i : Int) : Text :=
  if i < 0 then '-' :: ofNat i.natAbs else ofNat i.natAbs

/-- A numeral filled up with zeros on the left to at least `width` digits. -/
def padNat (width n : Nat) : Text :=
  List.replicate (width - (ofNat n).length) '0' ++ ofNat n

@[simp] theorem natOfDigits_ofNat (n : Nat) : natOfDigits (ofNat n) = n :=
  Nat.ofDigitChars_toDigits (by decide) (by decide)

example : ofInt (-7) = "-7".toList ∧ padNat 2 5 = "05".toList := by decide

/-! ## Integers in arguments -/

/-- The most digits that an integer may be written with. -/
def maxIntegerDigits : Nat := 4300

/-- The values of a row of digits; a single underscore may stand between two of them. -/
def digitValues? : Text → Option (List Nat)
  | [] => none
  | [c] => (decimalValue? c).map ([·])
  | c :: '_' :: rest => do return (← decimalValue? c) :: (← digitValues? rest)
  | c :: rest => do return (← decimalValue? c) :: (← digitValues? rest)

/-- The natural number that a row of digits writes. -/
def natural? (t : Text) : Option Nat :=
  (digitValues? t).bind fun values =>
    if values.length ≤ maxIntegerDigits then some (valueOfDigits values) else none

/-- Whether a character may stand around an integer: a blank, but none of the four separators of
information. -/
def isAround (c : Char) : Bool := isBlank c && !(0x1C ≤ c.toNat && c.toNat ≤ 0x1F)

/-- A text without what may stand around an integer. -/
def trimAround (t : Text) : Text :=
  ((t.dropWhile isAround).reverse.dropWhile isAround).reverse

def integer? (t : Text) : Option Int :=
  match trimAround t with
  | '-' :: rest => (natural? rest).map fun n => -(n : Int)
  | '+' :: rest => (natural? rest).map fun n => (n : Int)
  | t => (natural? t).map fun n => (n : Int)

example : integer? " 9_0 ".toList = some 90 ∧ integer? "9__0".toList = none ∧
    integer? "-07".toList = some (-7) ∧ integer? "_1".toList = none ∧
    integer? "\x1c7".toList = none := by decide +kernel

end Agenda.Text
