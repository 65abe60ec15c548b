import Agenda.Shell.Numeral

/-!
# Formats

A format is text with fields: a field says how wide a value is printed at least, on which side it
stands, how many digits it has and in which form.
-/

namespace Agenda.Shell

/-- How a value is printed. -/
structure Field where
  left : Bool := false
  zeros : Bool := false
  plus : Bool := false
  blank : Bool := false
  alternate : Bool := false
  width : Nat := 0
  /-- Whether the width is an argument of its own. -/
  starred : Bool := false
  precision : Option Nat := none
  starredPrecision : Bool := false
  conversion : Char

/-- The field behind a per cent sign, and the number of its characters. The letters of `sizes` may
stand before the last one and mean nothing. -/
def fieldOf? (sizes : Text) (t : Text) : Option (Field × Nat) :=
  let isFlag (c : Char) : Bool := c == '-' || c == '0' || c == '+' || c == ' ' || c == '#'
  let flags := t.takeWhile isFlag
  let behind := t.dropWhile isFlag
  let starred := behind.head? == some '*'
  let width := if starred then ['*'] else behind.takeWhile Char.isDigit
  let behind := behind.drop width.length
  let (precision, behind) : Option Text × Text := match behind with
    | '.' :: '*' :: rest => (some ['*'], rest)
    | '.' :: rest => (some (rest.takeWhile Char.isDigit), rest.dropWhile Char.isDigit)
    | behind => (none, behind)
  match behind.dropWhile sizes.contains with
  | [] => none
  | conversion :: rest =>
    some ({
      left := flags.contains '-'
      zeros := flags.contains '0'
      plus := flags.contains '+'
      blank := flags.contains ' '
      alternate := flags.contains '#'
      width := if starred then 0 else Text.natOfDigits width
      starred
      precision := if precision = some ['*'] then none else precision.map Text.natOfDigits
      starredPrecision := precision = some ['*']
      conversion }, t.length - rest.length)

inductive Piece
  | text (c : Char)
  | field (field : Field) (written : Text)
  /-- The start of a field that has no end. -/
  | unfinished (written : Text)
  /-- Nothing is printed from here on. -/
  | ends

/-- The pieces of a format; `skip` characters have been read already. -/
def piecesFrom (escapes : Escapes) (sizes : Text) : Nat → Text → List Piece
  | _, [] => []
  | skip + 1, _ :: rest => piecesFrom escapes sizes skip rest
  | 0, c :: rest =>
    if c = '\\' then
      if escapes.ends && rest.head? == some 'c' then [.ends]
      else
        let (own, length) := (escapes.read? rest).getD (['\\'], 0)
        own.map .text ++ piecesFrom escapes sizes length rest
    else if c = '%' then
      if rest.head? = some '%' then .text '%' :: piecesFrom escapes sizes 1 rest
      else match fieldOf? sizes rest with
        | some (field, length) =>
          .field field ('%' :: rest.take length) :: piecesFrom escapes sizes length rest
        | none => [.unfinished ('%' :: rest)]
    else .text c :: piecesFrom escapes sizes 0 rest

namespace Field

/-- A field with the arguments for its width and its precision, which may be negative: a width then
asks for the other side, and a precision counts as none. -/
def withNumbers (field : Field) (width precision : Option Int) : Field :=
  let field := match width with
    | some width => { field with width := width.natAbs, left := field.left || width < 0 }
    | none => field
  match precision with
  | some precision =>
    { field with precision := if precision < 0 then none else some precision.toNat }
  | none => field

/-- What stands in front of the digits of a number. -/
def sign (field : Field) (negative : Bool) : Text :=
  if negative then ['-']
  else if field.plus then ['+']
  else if field.blank then [' ']
  else []

/-- Text filled up to the width of a field; zeros stand behind what is in front of the digits. -/
def fill (field : Field) (zeros : Bool) (front body : Text) : Text :=
  let missing := field.width - (front.length + body.length)
  if field.left then front ++ body ++ List.replicate missing ' '
  else if zeros && field.zeros then front ++ List.replicate missing '0' ++ body
  else List.replicate missing ' ' ++ front ++ body

def ofText (field : Field) (t : Text) : Text :=
  field.fill false [] (match field.precision with
    | some precision => t.take precision
    | none => t)

end Field

/-- One more than the greatest number of 64 bits. -/
def wordRange : Int := 18446744073709551616

/-- An integer in a field. Without a sign it is taken as one of 64 bits. -/
def Field.ofInt (field : Field) (n : Int) : Text :=
  let digits (base n : Nat) : Text :=
    let digits := if n = 0 then [] else Nat.toDigits base n
    List.replicate (field.precision.getD 1 - digits.length) '0' ++ digits
  let fill := field.fill field.precision.isNone
  let natural := (n % wordRange).toNat
  let mark (t : Text) : Text := if field.alternate ∧ natural ≠ 0 then t else []
  match field.conversion with
  | 'u' => fill [] (digits 10 natural)
  | 'x' => fill (mark "0x") (digits 16 natural)
  | 'X' => fill (mark "0X") ((digits 16 natural).map Char.toUpper)
  | 'o' =>
    let digits := digits 8 natural
    fill [] (if field.alternate ∧ digits.head? ≠ some '0' then '0' :: digits else digits)
  | _ => fill (field.sign (n < 0)) (digits 10 n.natAbs)

/-- A decimal number with a fixed number of digits behind the point; a half goes to the even one. -/
def fixed (precision : Nat) (n : Nat) (places : Nat) : Text :=
  let digits := Text.padNat (precision + 1) (nearest (n * powerOfTen precision) (powerOfTen places))
  let (front, back) := digits.splitAt (digits.length - precision)
  if precision = 0 then front else front ++ '.' :: back

/-- A decimal number with one digit before the point and a power of ten. -/
def scientific (precision : Nat) (n : Nat) (places : Nat) : Text :=
  let digits := Text.ofNat n
  let exponent : Int := if n = 0 then 0 else (digits.length : Int) - 1 - places
  let mantissa := fixed precision n (digits.length - 1)
  let (mantissa, exponent) := if Text.startsWith "10" mantissa then
      (fixed precision n digits.length, exponent + 1)
    else (mantissa, exponent)
  mantissa ++ 'e' :: (if exponent < 0 then '-' else '+') :: Text.padNat 2 exponent.natAbs

/-- A decimal number in its shorter form, with some significant digits; zeros at the end are left
out unless they are kept. -/
def general (keeps : Bool) (precision : Nat) (n : Nat) (places : Nat) : Text :=
  let dropZeros (t : Text) : Text :=
    if t.contains '.' && !keeps then
      let t := (t.reverse.dropWhile (· == '0')).reverse
      if Text.endsWith "." t then t.dropLast else t
    else t
  let precision := max precision 1
  let t := scientific (precision - 1) n places
  let exponent : Int := integerOf ((t.dropWhile (· ≠ 'e')).drop 1)
  if exponent < -4 ∨ precision ≤ exponent then
    dropZeros (t.takeWhile (· ≠ 'e')) ++ t.dropWhile (· ≠ 'e')
  else dropZeros (fixed (precision - 1 - exponent).toNat n places)

def Field.ofQuantity (field : Field) (quantity : Quantity) : Text :=
  let cased (t : Text) : Text := if field.conversion.isUpper then t.map Char.toUpper else t
  match quantity with
  | .infinite negative => field.fill false (field.sign negative) (cased "inf")
  | .undefined negative => field.fill false (field.sign negative) (cased "nan")
  | .finite negative n places =>
    let precision := field.precision.getD 6
    let t := match field.conversion.toLower with
      | 'e' => scientific precision n places
      | 'g' => general field.alternate precision n places
      | _ => fixed precision n places
    let t := if field.alternate && !t.contains '.' then
        t.takeWhile (· ≠ 'e') ++ '.' :: t.dropWhile (· ≠ 'e')
      else t
    field.fill true (field.sign negative) (cased t)

example : ({ width := 7, zeros := true, precision := some 2, conversion := 'f' } : Field).ofQuantity
    (.finite true 2675 3) = "-002.68".toList := by
  decide +kernel

end Agenda.Shell
