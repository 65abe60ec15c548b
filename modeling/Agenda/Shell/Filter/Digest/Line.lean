import Agenda.Shell.Filter
import Agenda.Shell.Filter.Digest.Wide

/-!
# Check sums and lines of digests

Sums over the bytes of a file: a cyclic one, one that turns sixteen bits after every byte, and a
plain one that is folded to sixteen bits.

How a digest and the name of its file are written on a line, and how such lines are read back: with
the digest first, or with the name of the digest and the file in brackets first.
-/

namespace Agenda.Shell.Filter.Digest

/-! ## Check sums -/

/-- One bit of a cyclic check sum: the sum is moved on, and mixed if a bit falls out. -/
def cycled (sum : UInt32) : UInt32 :=
  if sum &&& 0x80000000 = 0 then sum <<< 1 else sum <<< 1 ^^^ 0x04c11db7

def checked (sum : UInt32) (byte : Nat) : UInt32 :=
  (List.range 8).foldl (fun sum _ => cycled sum) (sum ^^^ UInt32.ofNat byte <<< 24)

/-- The bytes of a number without zeros in front, the lowest one first. -/
def sizeBytes : Nat → Nat → List Nat
  | 0, _ => []
  | fuel + 1, n => if n = 0 then [] else n % 256 :: sizeBytes fuel (n / 256)

def cyclicSum (t : Text) : Nat :=
  let bytes := t.map Char.toNat ++ sizeBytes 8 t.length
  (~~~(bytes.foldl checked 0)).toNat

/-- The sum that is turned by one of its sixteen bits before each byte. -/
def turningSum (t : Text) : Nat :=
  t.foldl (fun sum c => (sum / 2 + sum % 2 * 32768 + c.toNat) % 65536) 0

/-- The sum of all bytes, folded to sixteen bits. -/
def plainSum (t : Text) : Nat :=
  let sum := t.foldl (fun sum c => sum + c.toNat) 0 % 4294967296
  let folded := sum % 65536 + sum / 65536
  folded % 65536 + folded / 65536

def blockCount (size : Nat) (t : Text) : Nat := (t.length + size - 1) / size

/-- The three sums as they are printed, each with the size of the file. -/
def cyclicLine (t : Text) : Text := Text.ofNat (cyclicSum t) ++ ' ' :: Text.ofNat t.length

@[inherit_doc cyclicLine]
def turningLine (t : Text) : Text :=
  let digits := Text.ofNat (turningSum t)
  List.replicate (5 - digits.length) '0' ++ digits ++
    ' ' :: column 5 (Text.ofNat (blockCount 1024 t))

@[inherit_doc cyclicLine]
def plainLine (t : Text) : Text :=
  Text.ofNat (plainSum t) ++ ' ' :: Text.ofNat (blockCount 512 t)

/-! ## Lines of digests -/

/-- A kind of digest: its name, the number of digits if it is always the same, and the digits of raw
text. -/
structure Method where
  tag : Text
  length? : Option Nat
  /-- The number of digits that are written if nothing else is asked for. -/
  length : Nat
  of : (length : Nat) → Text → Text
  /-- Whether only lines are read that name the kind. -/
  needsTag : Bool := false

namespace Method

/-- A digest that always has the same number of digits. -/
def fixed (tag : Text) (length : Nat) (of : Text → Text) : Method :=
  { tag, length? := some length, length, of := fun _ => of }

/-- The kinds of digests, by the names that they have on a command line. -/
def all : List (Text × Method) := [
  ("md5", fixed "MD5" 32 Kind.bits128.of), ("sha1", fixed "SHA1" 40 Kind.bits160.of),
  ("sha224", fixed "SHA224" 56 Kind.bits224.of), ("sha256", fixed "SHA256" 64 Kind.bits256.of),
  ("sha384", fixed "SHA384" 96 Wide.bits384), ("sha512", fixed "SHA512" 128 Wide.bits512),
  ("blake2b", {
    tag := "BLAKE2b"
    length? := none
    length := 128
    of := fun length => Wide.counted (length / 2) })]

/-- The name of a digest with so many digits. -/
def tagFor (method : Method) (length : Nat) : Text :=
  if length = method.length then method.tag else method.tag ++ '-' :: Text.ofNat (4 * length)

end Method

/-- A name with marks in the place of line ends, and whether there are any. -/
def escapedName : Text → Text
  | [] => []
  | '\\' :: rest => '\\' :: '\\' :: escapedName rest
  | '\n' :: rest => '\\' :: 'n' :: escapedName rest
  | '\r' :: rest => '\\' :: 'r' :: escapedName rest
  | c :: rest => c :: escapedName rest

def plainName? : Text → Option Text
  | [] => some []
  | '\\' :: '\\' :: rest => (plainName? rest).map ('\\' :: ·)
  | '\\' :: 'n' :: rest => (plainName? rest).map ('\n' :: ·)
  | '\\' :: 'r' :: rest => (plainName? rest).map ('\r' :: ·)
  | c :: rest => if c = '\\' then none else (plainName? rest).map (c :: ·)

structure LineForm where
  tagged : Bool := false
  binary : Bool := false
  /-- The mark that ends lines; names have marks only in the place of line feeds that end lines. -/
  mark : Char := '\n'

/-- A name as it is written in front of what is said about its file. -/
def nameLine (name : Text) : Text :=
  if escapedName name = name then name else '\\' :: escapedName name

def LineForm.line (form : LineForm) (tag digits name : Text) : Text :=
  let written := if form.mark = '\n' then escapedName name else name
  let start : Text := if written = name then [] else ['\\']
  let line : Text :=
    if form.tagged then tag ++ " (" ++ written ++ ") = " ++ digits
    else digits ++ ' ' :: (if form.binary then '*' else ' ') :: written
  start ++ line ++ [form.mark]

/-- What a line says: the name of a file, and the digits that its digest has to have. -/
structure Entry where
  name : Text
  digits : Text

def isHexDigit (c : Char) : Bool := (Text.hexValue? c).isSome

def Method.accepts (method : Method) (digits : Text) : Bool :=
  digits.all isHexDigit && match method.length? with
    | some length => digits.length == length
    | none => 2 ≤ digits.length && digits.length % 2 == 0 && digits.length ≤ method.length

/-- Text without the spaces and tabs at its start. -/
def withoutBlanks (t : Text) : Text := t.dropWhile fun c => c == ' ' || c == '\t'

/-- What is said by the part of a line behind the opening bracket. -/
def Method.taggedEntry? (method : Method) (marked : Bool) (t : Text) : Option Entry := do
  let behind := (t.reverse.takeWhile (· ≠ ')')).reverse
  let name := t.take (t.length - behind.length - 1)
  guard (t.contains ')')
  let name ← if marked then plainName? name else some name
  match withoutBlanks behind with
  | '=' :: rest =>
    let digits := withoutBlanks rest
    guard (method.accepts digits)
    return ⟨name, digits⟩
  | _ => none

def Method.entry? (method : Method) (line : Text) : Option Entry := do
  let t := withoutBlanks line
  let marked := t.head? = some '\\'
  let t := if marked then t.tail else t
  if Text.startsWith method.tag t then
    let rest := t.drop method.tag.length
    let rest ← match rest, method.length? with
      | '-' :: sized, none =>
        let digits := sized.takeWhile Char.isDigit
        let count := Text.natOfDigits digits
        guard (!digits.isEmpty && 0 < count && count % 8 == 0 && count ≤ 4 * method.length)
        some (sized.drop digits.length)
      | rest, _ => some rest
    let rest := if rest.head? = some ' ' then rest.tail else rest
    match rest with
    | '(' :: rest => method.taggedEntry? marked rest
    | _ => none
  else
    let digits := t.takeWhile isHexDigit
    guard !method.needsTag
    guard (t.length ≥ (method.length?.getD 0) + 3 && method.accepts digits)
    match t.drop digits.length with
    | c :: d :: rest =>
      guard (c = ' ' || c = '\t')
      let name := if !rest.isEmpty && (d = ' ' || d = '*') then rest else d :: rest
      return ⟨← if marked then plainName? name else some name, digits⟩
    | _ => none

end Agenda.Shell.Filter.Digest
