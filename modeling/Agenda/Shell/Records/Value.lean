import Agenda.Shell.Printing

/-!
# Numbers and values of record scripts

The numbers that `awk` calculates with are binary floating point numbers of 64 bits. A finite one is
an integer times a power of two, and so it has finitely many decimal digits, from which every way to
print it is rounded.

The language of `awk` knows numbers and texts, and makes one of the other where it has to. A text
that was read as input counts as a number if it writes one. Texts are raw.
-/

namespace Agenda.Shell.Records

/-! ## Numbers of record scripts -/

/-- The parts of a finite number: whether it is negative, and an integer with the exponent of the
power of two that it is multiplied by. -/
def partsOf (x : Float) : Bool × Nat × Int :=
  let bits := x.toBits.toNat
  let fraction := bits % 4503599627370496
  let exponent := bits / 4503599627370496 % 2048
  (9223372036854775808 ≤ bits,
    if exponent = 0 then fraction else fraction + 4503599627370496,
    (max exponent 1 : Int) - 1075)

/-- A finite number without its sign as decimal digits, with the number of those behind the point.
-/
def decimalOf (x : Float) : Nat × Nat :=
  match partsOf x with
  | (_, n, .ofNat shift) => (n * Nat.pow 2 shift, 0)
  | (_, n, .negSucc shift) => (n * Nat.pow 5 (shift + 1), shift + 1)

/-- The next integer towards zero of a finite number. -/
def truncated (x : Float) : Int :=
  let (digits, places) := decimalOf x
  let n : Int := digits / powerOfTen places
  if x < 0 then -n else n

/-- The integer that a number is printed as: the next one towards zero that 64 bits hold, with a
sign or without. -/
def wholeOf (x : Float) : Int :=
  if x.isNaN || x ≤ -9223372036854775808 then -9223372036854775808
  else if 18446744073709551616 ≤ x then 18446744073709551615
  else truncated x

/-- A number that is not finite as text, if it is one. -/
def infinite? (x : Float) : Option Text :=
  if x.isNaN then some "-nan".toList
  else if x.isInf then some (if x < 0 then "-inf".toList else "inf".toList)
  else none

def formatNumber (field : Field) (x : Float) : Text :=
  if "fFeEgG".toList.contains field.conversion then
    match infinite? x with
    | some t => field.fill false [] t
    | none =>
      let (digits, places) := decimalOf x
      field.ofQuantity (.finite (partsOf x).1 digits places)
  else field.ofInt (wholeOf x)

/-- The letters for sizes that mean nothing in a field. -/
def sizes : Text := "hl"

/-- A number as text: an integer in full, and others by a format. -/
def textOf (format : Text) (x : Float) : Text :=
  match infinite? x with
  | some t => t
  | none =>
    let n := wholeOf x
    if Float.ofInt n == x then Text.ofInt n
    else
      let start := format.takeWhile (· ≠ '%')
      match fieldOf? sizes (format.drop (start.length + 1)) with
      | some (field, length) =>
        start ++ formatNumber field x ++ format.drop (start.length + 1 + length)
      | none => format

/-- The decimal number that a text starts with, and what is behind it. -/
def decimalAt? (t : Text) : Option (Float × Text) :=
  let whole := t.takeWhile Char.isDigit
  let (places, rest) := match t.drop whole.length with
    | '.' :: rest => (rest.takeWhile Char.isDigit, rest.dropWhile Char.isDigit)
    | rest => ([], rest)
  if whole.isEmpty ∧ places.isEmpty then none
  else
    let (power, rest) : Int × Text := match rest with
      | 'e' :: exponent | 'E' :: exponent =>
        let digits := match exponent with
          | '-' :: digits | '+' :: digits => digits
          | digits => digits
        if (digits.headD 'e').isDigit then (integerOf exponent, digits.dropWhile Char.isDigit)
        else (0, exponent)
      | rest => (0, rest)
    let digits := Text.natOfDigits (whole ++ places)
    let power := if digits = 0 then 0 else power - places.length
    let power := max (-(whole.length + places.length + 400 : Int)) (min power 400)
    some (Float.ofScientific digits (power < 0) power.natAbs, rest)

def signedAt? (numberAt? : Text → Option (Float × Text)) (t : Text) : Option (Float × Text) :=
  match t.dropWhile isGap with
  | '-' :: rest => (numberAt? rest).map fun (x, rest) => (-x, rest)
  | '+' :: rest => numberAt? rest
  | rest => numberAt? rest

/-- The number that a text starts with when it is used as one; it may be in base sixteen. -/
def numeralAt? (t : Text) : Option (Float × Text) :=
  signedAt? (fun t =>
    let isWord (word : Text) : Bool := Text.startsWith word (t.map Char.toLower)
    match t with
    | '0' :: 'x' :: c :: rest | '0' :: 'X' :: c :: rest =>
      if isHex c then
        some (Float.ofNat (ofDigits 16 ((c :: rest).takeWhile isHex)), rest.dropWhile isHex)
      else some (0, 'x' :: c :: rest)
    | t =>
      if isWord "inf" then some (1 / 0, [])
      else if isWord "nan" then some (0 / 0, [])
      else decimalAt? t) t

/-- The number that a whole text writes in decimal digits. -/
def numeralOf? (t : Text) : Option Float :=
  match signedAt? decimalAt? t with
  | some (x, rest) => if rest.all isGap then some x else none
  | none => none

/-- The decimal format of numbers that are no integers. -/
def usualFormat : Text := "%.6g"

example : textOf usualFormat 1e6 = "1000000".toList ∧ textOf usualFormat 1e30 = "1e+30".toList ∧
    textOf usualFormat (1 / 3) = "0.333333".toList := by
  decide +kernel

/-! ## Values of record scripts -/

inductive Value
  | unset
  | number (x : Float)
  | text (t : Text)
  | given (t : Text)

namespace Value

def ofBool (answer : Bool) : Value := number (if answer then 1 else 0)

def ofNat (n : Nat) : Value := number (Float.ofNat n)

def number? : Value → Option Float
  | unset => some 0
  | number x => some x
  | text _ => none
  | given t => numeralOf? t

/-- A value as a text; numbers that are no integers are written with a format. -/
def toText (format : Text) : Value → Text
  | unset => []
  | number x => textOf format x
  | text t | given t => t

def toNumber : Value → Float
  | unset => 0
  | number x => x
  | text t | given t => ((numeralAt? t).map (·.1)).getD 0

def toInt (value : Value) : Int := wholeOf value.toNumber

def isTrue (value : Value) : Bool :=
  match value, value.number? with
  | text t, _ => !t.isEmpty
  | _, some x => x != 0
  | value, none => !(value.toText usualFormat).isEmpty

/-- How a sign of order compares two values: as numbers if both count as such, or else as texts. -/
def holds (numbers : Float → Float → Bool) (texts : Text → Text → Bool) (format : Text)
    (a b : Value) : Bool :=
  match a.number?, b.number? with
  | some x, some y => numbers x y
  | _, _ => texts (a.toText format) (b.toText format)

example : holds (· < ·) (· < ·) usualFormat (given "9".toList) (given "10".toList) = true ∧
    holds (· < ·) (· < ·) usualFormat (text "9".toList) (given "10".toList) = false ∧
    holds (· == ·) (· == ·) usualFormat (number (0.1 + 0.2)) (number 0.3) = false := by
  decide +kernel

end Value

def formatValue (numbers : Text) (field : Field) (value : Value) : Text :=
  match field.conversion with
  | 'c' =>
    match value with
    | .number x => field.fill false [] [Char.ofNat (wholeOf x % 256).toNat]
    | value =>
      match value.toText numbers with
      | [] => field.fill false [] [Char.ofNat 0]
      | c :: _ => field.fill false [] [c]
  | 's' => field.ofText (value.toText numbers)
  | _ => formatNumber field value.toNumber

/-- What a format makes of some values, and whether there was a value for every field and every
field is one that can be printed; `skip` characters have been read already. Numbers that are no
integers are written with the format `numbers` as texts. -/
def formatFrom (numbers : Text) : Nat → Text → List Value → Text × Bool
  | _, [], _ => ([], true)
  | skip + 1, _ :: rest, values => formatFrom numbers skip rest values
  | 0, '%' :: rest, values =>
    match rest with
    | '%' :: _ =>
      let (t, well) := formatFrom numbers 1 rest values
      ('%' :: t, well)
    | _ =>
      match fieldOf? sizes rest with
      | some (field, length) =>
        let taken (starred : Bool) (values : List Value) : Option Int × List Value :=
          if starred then (some (values.headD .unset).toInt, values.tail) else (none, values)
        let (width, values) := taken field.starred values
        let (precision, values) := taken field.starredPrecision values
        match values with
        | [] => ([], false)
        | value :: values =>
          if "diouxXcsfFeEgG".toList.contains field.conversion then
            let (t, well) := formatFrom numbers length rest values
            (formatValue numbers (field.withNumbers width precision) value ++ t, well)
          else ([], false)
      | none => ([], false)
  | 0, c :: rest, values =>
    let (t, well) := formatFrom numbers 0 rest values
    (c :: t, well)

end Agenda.Shell.Records
