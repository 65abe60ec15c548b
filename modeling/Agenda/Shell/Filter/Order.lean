import Agenda.Shell.Printing
import Agenda.Text.Basic

/-!
# Orders of texts

The orders in which lines can be sorted: by their characters, by the numbers that they start with,
by sizes with units, by the names of months, and as versions, in which rows of digits count as
numbers.
-/

namespace Agenda.Shell.Filter

def compareTexts (a b : Text) : Ordering := if a < b then .lt else if a = b then .eq else .gt

/-- The number at the start of a text: an integer, and the number of its digits that are behind the
point. -/
def decimalOf (t : Text) : Int × Nat :=
  let t := t.dropWhile fun c => Text.isSpace c
  let (negative, t) := match t with
    | '-' :: rest => (true, rest)
    | t => (false, t)
  let whole := t.takeWhile Char.isDigit
  let places := match t.drop whole.length with
    | '.' :: rest => rest.takeWhile Char.isDigit
    | _ => []
  let n : Int := Text.natOfDigits (whole ++ places)
  (if negative then -n else n, places.length)

def compareDecimals (a b : Int × Nat) : Ordering :=
  compare (a.1 * powerOfTen b.2) (b.1 * powerOfTen a.2)

/-- The rank of the unit behind the number at the start of a text. -/
def unitRank (t : Text) : Nat :=
  let rest := t.dropWhile fun c => Text.isSpace c || c == '-' || c == '.' || c.isDigit
  match rest with
  | c :: _ => ("KMGTPEZYRQ".toList.idxOf? (if c = 'k' then 'K' else c)).elim 0 (· + 1)
  | [] => 0

/-- The order of two numbers with units. -/
def compareSizes (a b : Text) : Ordering :=
  let rank (t : Text) : Int :=
    let n := (decimalOf t).1
    if n < 0 then -(unitRank t + 1 : Int) else if n = 0 then 0 else unitRank t + 1
  (compare (rank a) (rank b)).then (compareDecimals (decimalOf a) (decimalOf b))

/-- What a text counts as among numbers that may be written with powers of ten. -/
inductive Magnitude
  | none
  | undefined
  | least
  /-- An integer times a power of ten. -/
  | finite (digits : Int) (power : Int)
  | greatest

namespace Magnitude

def rank : Magnitude → Nat
  | none => 0
  | undefined => 1
  | least => 2
  | finite _ _ => 3
  | greatest => 4

def compare : Magnitude → Magnitude → Ordering
  | finite m p, finite n q =>
    let least := min p q
    Ord.compare (m * powerOfTen (p - least).toNat) (n * powerOfTen (q - least).toNat)
  | a, b => Ord.compare a.rank b.rank

/-- The power of ten behind the digits of a number. -/
def powerAt (t : Text) : Int :=
  match t with
  | c :: rest =>
    let (negative, digits) := match rest with
      | '-' :: digits => (true, digits)
      | '+' :: digits => (false, digits)
      | digits => (false, digits)
    let n : Int := min 5000 (Text.natOfDigits (digits.takeWhile Char.isDigit))
    if c ≠ 'e' ∧ c ≠ 'E' then 0 else if negative then -n else n
  | [] => 0

def ofText (t : Text) : Magnitude :=
  let t := t.dropWhile isGap
  let (negative, t) := match t with
    | '-' :: rest => (true, rest)
    | '+' :: rest => (false, rest)
    | t => (false, t)
  let isWord (word : Text) : Bool := Text.startsWith word (t.map Char.toLower)
  let signed (n : Nat) : Int := if negative then -(n : Int) else n
  let hex (t : Text) : Text := t.takeWhile fun c => (Text.hexValue? c).isSome
  if isWord "inf" then if negative then least else greatest
  else if isWord "nan" then undefined
  else if isWord "0x" ∧ !(hex (t.drop 2)).isEmpty then finite (signed (ofDigits 16 (hex (t.drop 2)))) 0
  else
    let whole := t.takeWhile Char.isDigit
    let (places, rest) := match t.drop whole.length with
      | '.' :: rest => (rest.takeWhile Char.isDigit, rest.dropWhile Char.isDigit)
      | rest => ([], rest)
    if whole.isEmpty ∧ places.isEmpty then none
    else finite (signed (Text.natOfDigits (whole ++ places))) (powerAt rest - places.length)

end Magnitude

/-- The number of the month that a text starts with; zero if it is none. -/
def monthOf (t : Text) : Nat :=
  let months : List Text := ["JAN", "FEB", "MAR", "APR", "MAY", "JUN", "JUL", "AUG", "SEP", "OCT",
    "NOV", "DEC"]
  (months.idxOf? (((t.dropWhile Text.isSpace).take 3).map Char.toUpper)).elim 0 (· + 1)

/-- The rank of a character in a version: a tilde comes before the end, digits stand together with
the end of a row, and letters come before other signs. -/
def versionRank : Option Char → Int
  | none => -1
  | some c =>
    if c.isDigit then 0
    else if c.isAlpha then c.toNat
    else if c = '~' then -2
    else c.toNat + 256

/-- The order of two parts of versions. Rows of digits count as numbers; every step takes at least
one of the `fuel` characters. -/
def compareRows : Nat → Text → Text → Ordering
  | 0, _, _ => .eq
  | fuel + 1, s, t =>
    let isSign (t : Text) : Bool := t.head?.any fun c => !c.isDigit
    if s.isEmpty ∧ t.isEmpty then .eq
    else if isSign s ∨ isSign t then
      (compare (versionRank s.head?) (versionRank t.head?)).then (compareRows fuel s.tail t.tail)
    else
      let row (t : Text) : Text := (t.takeWhile Char.isDigit).dropWhile (· = '0')
      (compare (row s).length (row t).length).then ((compareTexts (row s) (row t)).then
        (compareRows fuel (s.dropWhile Char.isDigit) (t.dropWhile Char.isDigit)))

/-- Whether what is left of a name from a point on is an ending, or several: letters and digits
behind points, with no digit first. -/
def isEnding : Nat → Text → Bool
  | _, [] => true
  | 0, _ => false
  | fuel + 1, '.' :: c :: rest =>
    (c.isAlpha || c == '~') && isEnding fuel (rest.dropWhile fun c => c.isAlphanum || c == '~')
  | _, _ => false

/-- A name without the endings behind its first character. -/
def withoutEndings : Text → Text
  | [] => []
  | c :: rest =>
    match (List.range (rest.length + 1)).find? fun n => isEnding rest.length (rest.drop n) with
    | some n => c :: rest.take n
    | none => c :: rest

/-- The order of two versions. Names that start with a point come first, and endings only count if
all else is equal. -/
def compareVersions (s t : Text) : Ordering :=
  let rank (t : Text) : Nat :=
    if t.isEmpty then 0 else if t = "." then 1 else if t = ".." then 2
    else if t.head? = some '.' then 3 else 4
  let fuel := s.length + t.length + 1
  (compare (rank s) (rank t)).then ((compareRows fuel (withoutEndings s) (withoutEndings t)).then
    (compareRows fuel s t))

example : compareVersions "v1.10".toList "v1.9".toList = .gt ∧
    compareVersions "a.tar.gz".toList "a-1.tar.gz".toList = .lt := by decide +kernel

end Agenda.Shell.Filter
