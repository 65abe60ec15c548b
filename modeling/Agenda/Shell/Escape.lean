import Agenda.Text.Digit
import Agenda.Text.Utf8

/-!
# Escapes in raw text

Data that scripts handle is raw text: every character stands for one byte. In what they print, a
backslash and what is behind it can stand for a byte that is hard to write. Which escapes there are
is not the same everywhere.
-/

namespace Agenda.Shell

def rawOf (bytes : ByteArray) : Text := bytes.toList.map fun byte => Char.ofNat byte.toNat

def raw (t : Text) : Text := rawOf (Text.toBytes t)

def bytesOf (t : Text) : ByteArray := ⟨(t.map fun c => UInt8.ofNat c.toNat).toArray⟩

def isOctal (c : Char) : Bool := '0' ≤ c && c ≤ '7'

def isHex (c : Char) : Bool := c.isDigit || "abcdefABCDEF".toList.contains c

def octal (digits : Text) : Char := Char.ofNat (Nat.ofDigitChars 8 digits 0 % 256)

/-- Up to `count` octal digits at the start of a text. -/
def octalDigits (count : Nat) (t : Text) : Text := (t.take count).takeWhile isOctal

/-- The number that digits of a base write; letters go on behind nine. -/
def ofDigits (base : Nat) (digits : Text) : Nat :=
  digits.foldl (fun n c =>
    base * n + if c.isDigit then c.toNat - '0'.toNat else c.toLower.toNat - 'a'.toNat + 10) 0

/-- The character that a letter behind a backslash stands for. -/
def escaped? (c : Char) : Option Char :=
  [('n', '\n'), ('t', '\t'), ('r', '\r'), ('\\', '\\'), ('a', '\x07'), ('b', '\x08'),
    ('f', '\x0c'), ('v', '\x0b')].lookup c

structure Escapes where
  /-- Whether the common letters stand for characters, and which ones do besides. -/
  common : Bool := true
  others : List (Char × Char) := [('e', '\x1b')]
  /-- Whether three octal digits right behind the backslash write a byte. -/
  octals : Bool := true
  /-- Whether a zero may stand before the three octal digits. -/
  zeros : Bool := true
  /-- Whether there are bytes in base sixteen, and whether there are characters by their numbers. -/
  hex : Bool := false
  numbers : Bool := false
  /-- Whether the letter `c` ends all. -/
  ends : Bool := true

namespace Escapes

/-- No escapes at all: a backslash stands for itself wherever it is. -/
def plain : Escapes := { others := [], common := false, octals := false, zeros := false, ends := false }

def script : Escapes := {}

def format : Escapes := { zeros := false, ends := false }

def large : Escapes where
  others := [('e', '\x1b'), ('E', '\x1b')]
  octals := false
  hex := true
  numbers := true

def largeWord : Escapes := { large with octals := true }

def largeFormat : Escapes := { largeWord with
  others := large.others ++ [('\x22', '\x22'), ('\x27', '\x27'), ('?', '?')]
  zeros := false
  ends := false }

def tool : Escapes := { hex := true }

def toolWord : Escapes := { tool with
  others := [('e', '\x1b'), ('\x22', '\x22')]
  numbers := true }

def toolFormat : Escapes := { toolWord with zeros := false }

/-- What the start of a text behind a backslash stands for, and the number of its characters. -/
def read? (escapes : Escapes) (t : Text) : Option (Text × Nat) :=
  let digitsAt (count : Nat) (rest : Text) : Text := (rest.take count).takeWhile isHex
  let numbered (count : Nat) (rest : Text) : Option (Text × Nat) :=
    let digits := digitsAt count rest
    if escapes.numbers && !digits.isEmpty then
      some (raw [Char.ofNat (ofDigits 16 digits)], digits.length + 1)
    else none
  match t with
  | [] => none
  | c :: rest =>
    if c = '0' ∧ escapes.zeros then
      let digits := octalDigits 3 rest
      some ([octal digits], digits.length + 1)
    else if isOctal c then
      if escapes.octals then some ([octal (octalDigits 3 t)], (octalDigits 3 t).length) else none
    else match c with
      | 'x' =>
        let digits := digitsAt 2 rest
        if escapes.hex && !digits.isEmpty then
          some ([Char.ofNat (ofDigits 16 digits)], digits.length + 1)
        else none
      | 'u' => numbered 4 rest
      | 'U' => numbered 8 rest
      | c =>
        let common := if escapes.common then escaped? c else none
        (common.or (escapes.others.lookup c)).map fun d => ([d], 1)

/-- Raw text with its escapes replaced, and whether it goes on behind it; `skip` characters belong
to the escape before. A backslash that starts no escape stands for itself. -/
def replaceFrom (escapes : Escapes) : Nat → Text → Text × Bool
  | _, [] => ([], true)
  | skip + 1, _ :: rest => escapes.replaceFrom skip rest
  | 0, c :: rest =>
    if c = '\\' then
      if escapes.ends && rest.head? == some 'c' then ([], false)
      else
        let (own, length) := (escapes.read? rest).getD (['\\'], 0)
        let (t, goesOn) := escapes.replaceFrom length rest
        (own ++ t, goesOn)
    else
      let (t, goesOn) := escapes.replaceFrom 0 rest
      (c :: t, goesOn)

/-- Raw text with its escapes replaced, and whether it goes on behind it. -/
def replace (escapes : Escapes) (t : Text) : Text × Bool := escapes.replaceFrom 0 t

example : script.replace "\\101\\t\\0101\\x41".toList = ("A\tA\\x41".toList, true) ∧
    large.replace "\\101\\x41\\c\\t".toList = ("\\101A".toList, false) := by
  decide +kernel

end Escapes

/-- What `echo` prints. -/
def echo (arguments : List Text) : Text :=
  let (newline, arguments) := match arguments with
    | ['-', 'n'] :: rest => (false, rest)
    | arguments => (true, arguments)
  let (t, goesOn) := Escapes.script.replace (raw (Text.join " " arguments))
  if goesOn && newline then t ++ "\n" else t

/-- What an `echo` prints that knows options: the letters `n`, `e` and `E` behind a dash say that
the line is not ended, and whether escapes are replaced. -/
def echoBy (escapes : Escapes) (arguments : List Text) : Text :=
  let isOption (word : Text) : Bool :=
    match word with
    | '-' :: c :: letters => (c :: letters).all "neE".toList.contains
    | _ => false
  let letters := (arguments.takeWhile isOption).flatten
  let t := raw (Text.join " " (arguments.dropWhile isOption))
  let replaced := (letters.filter fun c => c = 'e' ∨ c = 'E').getLast? = some 'e'
  let (t, goesOn) := if replaced then escapes.replace t else (t, true)
  if goesOn && !letters.contains 'n' then t ++ ['\n'] else t

end Agenda.Shell
