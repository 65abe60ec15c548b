import Agenda.Shell.Options
import Agenda.Shell.Printing
import Agenda.Text.Basic

/-!
# Filters of scripts

What the tools have in common that print what they read, or a part of it, or something about it: the
lines of raw text, columns, and the numbers that options are given.
-/

namespace Agenda.Shell.Filter

/-- The lines of raw text that ends them with a mark; a mark at its end starts no further line. -/
def linesAt (mark : Char) (t : Text) : List Text :=
  let lines := t.splitOn mark
  if lines.getLast? = some [] then lines.dropLast else lines

/-- The lines of raw text; a line feed at its end starts no further line. -/
def linesOf (t : Text) : List Text := linesAt '\n' t

def printedAt (mark : Char) (lines : List Text) : Text := lines.flatMap (· ++ [mark])

def printed (lines : List Text) : Text := printedAt '\n' lines

/-- Lines with their marks, but for one that is missing at the end. -/
def fullLinesAt (mark : Char) : Text → List Text
  | [] => []
  | c :: rest =>
    if c = mark then [c] :: fullLinesAt mark rest
    else match fullLinesAt mark rest with
      | [] => [[c]]
      | line :: lines => (c :: line) :: lines

/-- Lines with their line feeds, but for one that is missing at the end. -/
def fullLines (t : Text) : List Text := fullLinesAt '\n' t

/-- The mark that ends lines: a line feed, or the zero byte if that is asked for. -/
def lineMark (options : Options) : Char := if options.has 'z' then '\x00' else '\n'

/-- Text filled up with spaces in front. -/
def column (width : Nat) (t : Text) : Text := List.replicate (width - t.length) ' ' ++ t

/-- The sizes that letters behind a number stand for. -/
def units : List (Text × Nat) :=
  let scaled (letter : Char) (power : Nat) : List (Text × Nat) :=
    [([letter], Nat.pow 1024 power), ([letter, 'B'], Nat.pow 1000 power),
      ([letter, 'i', 'B'], Nat.pow 1024 power)]
  let plain : List (Text × Nat) := [("", 1), ("b", 512)]
  plain ++ scaled 'K' 1 ++ scaled 'k' 1 ++ scaled 'M' 2 ++ scaled 'G' 3 ++
    scaled 'T' 4 ++ scaled 'P' 5 ++ scaled 'E' 6

/-- The number that a value writes; a letter behind it multiplies it. -/
def amount? (t : Text) : Option Nat :=
  let t := t.dropWhile isGap
  let t := if t.head? = some '+' then t.tail else t
  let digits := t.takeWhile Char.isDigit
  let unit := t.drop digits.length
  if digits.isEmpty then if unit.isEmpty then none else units.lookup unit
  else (units.lookup unit).map (Text.natOfDigits digits * ·)

/-- The number that a value writes with digits alone. -/
def whole? (t : Text) : Option Nat :=
  let t := t.dropWhile isGap
  let digits := if t.head? = some '+' then t.tail else t
  if digits.isEmpty || !digits.all Char.isDigit then none else some (Text.natOfDigits digits)

/-- A number that an option is given, or what is said if it is none. -/
def amount (what : Text) (value : Text) : Except Misuse Nat :=
  match amount? value with
  | some n =>
    if n < 18446744073709551616 then .ok n
    else .error (.other [(Misuse.badValue what value).words ++
      ": Value too large for defined data type"] false)
  | none => .error (.badValue what value)

/-- A complaint in one line. -/
def refuse {α : Type} (words : Text) : Except Misuse α := .error (.other [words] false)

/-- A complaint in one line, with which the tool tells where help is. -/
def refuseWithHint {α : Type} (words : Text) : Except Misuse α := .error (.other [words] true)

/-- A value that an option is given, or another one if it is not given. -/
def valueOr (options : Options) (letter : Char) (value : Text) : Text :=
  (options.value? letter).getD value

end Agenda.Shell.Filter
