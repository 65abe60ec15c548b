import Agenda.Shell.Filter

/-!
# Bytes in letters and in numbers

How `base64` and its like write bytes with few letters: some bits for each letter, and groups of
letters for groups of bytes, of which the last one is filled up with a sign.

How `od` shows bytes: some on a line, behind the number of those before them, as characters, as
names of characters or as numbers of one or more bytes, in one form or in several ones below each
other.
-/

namespace Agenda.Shell.Filter

/-! ## Bytes in letters -/

/-- A way to write bytes with letters. -/
structure Coding where
  letters : Text
  /-- The number of bits that a letter stands for. -/
  bits : Nat
  /-- The numbers of bytes and of letters of a group. -/
  bytes : Nat
  size : Nat
  /-- Whether the letters of a group that is not whole stand for bytes. -/
  lenient : Bool := false

namespace Coding

def capitals : Text := "ABCDEFGHIJKLMNOPQRSTUVWXYZ"

def smallAndDigits : Text := "abcdefghijklmnopqrstuvwxyz0123456789"

def sixBits : Coding := ⟨capitals ++ smallAndDigits ++ "+/", 6, 3, 4, true⟩

/-- Six bits for each letter, with letters that may stand in addresses. -/
def sixBitsForAddresses : Coding := ⟨capitals ++ smallAndDigits ++ "-_", 6, 3, 4, true⟩

def fiveBits : Coding := ⟨capitals ++ "234567", 5, 5, 8, false⟩

def fiveBitsInOrder : Coding := ⟨"0123456789ABCDEFGHIJKLMNOPQRSTUV", 5, 5, 8, false⟩

def fourBits : Coding := ⟨"0123456789ABCDEF", 4, 1, 2, false⟩

/-- A number written with a number of letters. -/
def lettersOf (coding : Coding) : (count : Nat) → Nat → Text
  | 0, _ => []
  | count + 1, n =>
    let base := Nat.pow 2 coding.bits
    coding.lettersOf count (n / base) ++ [coding.letters.getD (n % base) '=']

/-- The letters of a group of bytes; signs fill it up. -/
def group (coding : Coding) (t : Text) : Text :=
  let n := (t ++ List.replicate (coding.bytes - t.length) '\x00').foldl
    (fun n c => n * 256 + c.toNat) 0
  let used := (8 * t.length + coding.bits - 1) / coding.bits
  (coding.lettersOf coding.size n).take used ++ List.replicate (coding.size - used) '='

/-- Raw text written with letters, in at most `count` groups. -/
def written (coding : Coding) : (count : Nat) → Text → Text
  | 0, _ => []
  | _, [] => []
  | count + 1, t =>
    coding.group (t.take coding.bytes) ++ coding.written count (t.drop coding.bytes)

/-- The bytes that the letters of a group write, as far as they make sense, and whether they all do:
`n` is the number that `held` bits write that are not in a byte yet. -/
def groupBytes (coding : Coding) (n held : Nat) : Text → Text × Bool
  | [] => ([], true)
  | c :: rest =>
    if c = '=' then ([], rest.all (· = '=') && held < 8 && held < coding.bits && 0 < held)
    else match coding.letters.idxOf? c with
      | none => ([], false)
      | some value =>
        let n := n * Nat.pow 2 coding.bits + value
        let held := held + coding.bits
        if held < 8 then coding.groupBytes n held rest
        else
          let unit := Nat.pow 2 (held - 8)
          let (others, well) := coding.groupBytes (n % unit) (held - 8) rest
          (Char.ofNat (n / unit % 256) :: others, well)

/-- The bytes that letters write, as far as they make sense, and whether they all do. -/
def readBytes (coding : Coding) : (count : Nat) → Text → Text × Bool
  | 0, _ => ([], true)
  | _, [] => ([], true)
  | count + 1, t =>
    let group := t.take coding.size
    let whole := group.length = coding.size
    let (bytes, well) := if whole ∨ coding.lenient then coding.groupBytes 0 0 group
      else ([], false)
    if well && whole then
      let (others, well) := coding.readBytes count (t.drop coding.size)
      (bytes ++ others, well)
    else (bytes, false)

/-- Lines of a width, at most `count` of them. -/
def wrapped (width : Nat) : (count : Nat) → Text → List Text
  | 0, _ => []
  | _, [] => []
  | count + 1, t => t.take width :: wrapped width count (t.drop width)

/-- Raw text in lines of letters. -/
def encode (coding : Coding) (width : Nat) (t : Text) : Text :=
  let code := coding.written t.length t
  if width = 0 then code else printed (wrapped width code.length code)

/-- The bytes that lines of letters write, and whether they all make sense. Signs of other kinds may
be passed over. -/
def decode (coding : Coding) (passesOver : Bool) (t : Text) : Text × Bool :=
  let letters := t.filter fun c =>
    c != '\n' && (!passesOver || c == '=' || coding.letters.contains c)
  coding.readBytes (letters.length + 1) letters

def widthOf (options : Options) : Except Misuse Nat :=
  let value := valueOr options 'w' "76"
  match whole? value with
  | some width => .ok width
  | none => .error (.badValue "wrap size" value)

/-- The way of writing that a letter asks for. -/
def ofLetter? (letter : Char) : Option Coding :=
  [('6', sixBits), ('u', sixBitsForAddresses), ('3', fiveBits), ('h', fiveBitsInOrder),
    ('1', fourBits)].lookup letter

end Coding

/-! ## Bytes in numbers -/

/-- How numbers are written. -/
inductive Radix
  | octal
  | signed
  | unsigned
  | hex
deriving DecidableEq

inductive ByteForm
  | names
  | characters
  | numbers (radix : Radix) (size : Nat)
deriving DecidableEq

namespace ByteForm

/-- The numbers of a base, filled up with zeros. -/
def digitsOf (base least n : Nat) : Text :=
  let digits := Nat.toDigits base n
  List.replicate (least - digits.length) '0' ++ digits

/-- How many digits a number of so many bytes may have. -/
def digitCount : Radix → (size : Nat) → Nat
  | .octal, size => (8 * size + 2) / 3
  | .hex, size => 2 * size
  | .unsigned, size => (Text.ofNat (Nat.pow 256 size - 1)).length
  | .signed, size => (Text.ofNat (Nat.pow 256 size / 2)).length + 1

/-- The number of bytes that are shown together. -/
def size : ByteForm → Nat
  | names | characters => 1
  | numbers _ size => size

/-- The width of a column, without the space before it. -/
def width : ByteForm → Nat
  | names | characters => 3
  | numbers radix size => digitCount radix size

def character (c : Char) : Text :=
  let table : List (Char × Text) := [('\x00', "\\0"), ('\x07', "\\a"), ('\x08', "\\b"),
    ('\x09', "\\t"), ('\x0a', "\\n"), ('\x0b', "\\v"), ('\x0c', "\\f"), ('\x0d', "\\r")]
  match table.lookup c with
  | some t => t
  | none => if ' ' ≤ c ∧ c ≤ '~' then [c] else digitsOf 8 3 c.toNat

/-- The names of the characters that cannot be seen. -/
def hiddenNames : List Text :=
  ("nul soh stx etx eot enq ack bel bs ht nl vt ff cr so si dle dc1 dc2 dc3 dc4 nak syn etb can em" ++
    " sub esc fs gs rs us sp").toList.splitOn ' '

/-- The name of a byte without its first bit. -/
def byteName (c : Char) : Text :=
  let n := c.toNat % 128
  if n = 127 then "del" else hiddenNames.getD n [Char.ofNat n]

def shown (highFirst : Bool) (form : ByteForm) (bytes : Text) : Text :=
  let n : Nat := (if highFirst then bytes.reverse else bytes).foldr
    (fun c n => c.toNat + 256 * n) 0
  match form with
  | names => bytes.flatMap byteName
  | characters => bytes.flatMap character
  | numbers .octal size => digitsOf 8 (digitCount .octal size) n
  | numbers .hex size => digitsOf 16 (digitCount .hex size) n
  | numbers .unsigned _ => Text.ofNat n
  | numbers .signed size =>
    let all := Nat.pow 256 size
    if n < all / 2 then Text.ofNat n else '-' :: Text.ofNat (all - n)

end ByteForm

structure Dump where
  /-- The forms, each with whether the characters stand behind it. -/
  forms : List (ByteForm × Bool)
  rowSize : Nat
  /-- The base and the number of digits of the numbers in front, if there are any. -/
  address : Option (Nat × Nat)
  /-- Whether rows that come again are shown. -/
  all : Bool
  highFirst : Bool
  skipped : Nat
  limit : Option Nat

namespace Dump

/-- The number in front of a row. -/
def addressAt (dump : Dump) (place : Nat) : Text :=
  match dump.address with
  | some (base, digits) => ByteForm.digitsOf base digits place
  | none => []

def rowWidth (dump : Dump) : Nat :=
  (dump.forms.map fun (form, _) => (form.width + 1) * (dump.rowSize / form.size)).foldl max 0

/-- The items of a row in one form; `left` of them may still come, and `pad` is the room that is
left between them. -/
def items (dump : Dump) (form : ByteForm) (extra count : Nat) : (left pad : Nat) → Text → Text
  | 0, _, _ => []
  | _, _, [] => []
  | left + 1, pad, row =>
    let next := extra * left / count
    let own := row.take form.size
    let own := own ++ List.replicate (form.size - own.length) '\x00'
    column (pad - next + form.width) (form.shown dump.highFirst own) ++
      dump.items form extra count left next (row.drop form.size)

def line (dump : Dump) (start : Text) (form : ByteForm) (trailed : Bool) (row : Text) : Text :=
  let count := dump.rowSize / form.size
  let extra := dump.rowWidth - form.width * count
  let body := dump.items form extra count count extra row
  let missing := (dump.rowSize - row.length) / form.size
  start ++ body ++
    if trailed then
      List.replicate (missing * form.width + extra * missing / count) ' ' ++ "  >" ++
        row.map (fun c => if ' ' ≤ c ∧ c ≤ '~' then c else '.') ++ ['<']
    else []

def rowLines (dump : Dump) (place : Nat) (row : Text) : List Text :=
  let start := dump.addressAt place
  dump.forms.zipIdx.map fun ((form, trailed), index) =>
    dump.line (if index = 0 then start else List.replicate start.length ' ') form trailed row

/-- The lines of a dump from a place on; `last` is the row before, and `starred` tells whether it is
told already that rows come again. -/
def lines (dump : Dump) : Nat → (place : Nat) → (last : Option Text) → (starred : Bool) → Text →
    List Text
  | 0, _, _, _, _ => []
  | _ + 1, place, _, _, [] => if dump.address.isSome then [dump.addressAt place] else []
  | fuel + 1, place, last, starred, t =>
    let row := t.take dump.rowSize
    let rest := t.drop dump.rowSize
    if !dump.all ∧ last = some row ∧ row.length = dump.rowSize then
      (if starred then [] else [['*']]) ++
        dump.lines fuel (place + row.length) last true rest
    else
      dump.rowLines place row ++ dump.lines fuel (place + row.length) (some row) false rest

/-- The dump of bytes, if there are as many as are to be skipped. -/
def of? (dump : Dump) (t : Text) : Option Text :=
  if t.length < dump.skipped then none
  else
    let t := t.drop dump.skipped
    let t := match dump.limit with
      | some count => t.take count
      | none => t
    some (printed (dump.lines (t.length + 1) dump.skipped none false t))

def radixOf? (letter : Char) : Option Radix :=
  [('o', Radix.octal), ('d', .signed), ('u', .unsigned), ('x', .hex)].lookup letter

def formsOf (whole : Text) : Nat → Text → Except Misuse (List (ByteForm × Bool))
  | 0, _ => .ok []
  | _, [] => .ok []
  | fuel + 1, c :: rest =>
    let goesOn (form : ByteForm) (rest : Text) : Except Misuse (List (ByteForm × Bool)) :=
      match rest with
      | 'z' :: rest => (formsOf whole fuel rest).map ((form, true) :: ·)
      | rest => (formsOf whole fuel rest).map ((form, false) :: ·)
    match c, radixOf? c with
    | 'a', _ => goesOn .names rest
    | 'c', _ => goesOn .characters rest
    | c, none =>
      refuse ("invalid character '" ++ [c] ++ "' in type string " ++ Misuse.marked whole)
    | _, some radix =>
      let digits := rest.takeWhile Char.isDigit
      match rest.head?.bind fun c => [('C', 1), ('S', 2), ('I', 4), ('L', 8)].lookup c with
      | some size => goesOn (.numbers radix size) rest.tail
      | none =>
        let size := if digits.isEmpty then 4 else Text.natOfDigits digits
        if [1, 2, 4, 8].contains size then
          goesOn (.numbers radix size) (rest.drop digits.length)
        else
          .error (.other [("invalid type string " : Text) ++ Misuse.marked whole ++ ";",
            ("this system doesn't provide a " : Text) ++ Text.ofNat size ++
              "-byte integral type"] false)

def typeOf? (letter : Char) : Option Text :=
  let table : List (Char × Text) := [('a', "a"), ('b', "o1"), ('c', "c"), ('d', "u2"),
    ('h', "x2"), ('i', "d4"), ('I', "d8"), ('L', "d8"), ('l', "d8"), ('o', "o2"), ('s', "d2"),
    ('x', "x2"), ('X', "x4"), ('O', "o4"), ('D', "u4"), ('B', "o2"), ('H', "x4")]
  table.lookup letter

/-- A number in the base that its start tells, with a unit behind it. -/
def numeral? (t : Text) : Option Nat :=
  let scaled (base : Nat) (isOwn : Char → Bool) (t : Text) : Option Nat :=
    let digits := t.takeWhile isOwn
    if digits.isEmpty then none
    else (units.lookup (t.drop digits.length)).map fun unit =>
      unit * digits.foldl (fun n c => base * n + (Text.hexValue? c).getD 0) 0
  match t with
  | '0' :: 'x' :: rest | '0' :: 'X' :: rest =>
    scaled 16 (fun c => (Text.hexValue? c).isSome) rest
  | '0' :: rest => scaled 8 (fun c => '0' ≤ c && c ≤ '7') ('0' :: rest)
  | t => scaled 10 Char.isDigit t

/-- The place that an operand of the old form leads to. -/
def oldPlace? (t : Text) : Option Nat :=
  let t := if t.head? = some '+' then t.tail else t
  let (t, unit) : Text × Nat := if t.getLast? = some 'b' ∧ !Text.startsWith "0x" t then
      (t.dropLast, 512) else (t, 1)
  if !(t.head?.any Char.isDigit) then none
  else if t.getLast? = some '.' then (numeral? (t.dropLast.dropWhile (· = '0'))).map (unit * ·)
  else (numeral? (if Text.startsWith "0x" t then t else '0' :: t)).map (unit * ·)

def numberOf (letter : Char) (value : Text) : Except Misuse Nat :=
  match numeral? value with
  | some n =>
    if n < 18446744073709551616 then .ok n
    else refuse ("-" ++ [letter] ++ " argument '" ++ value ++ "' too large")
  | none => refuse ("invalid -" ++ [letter] ++ " argument '" ++ value ++ "'")

/-- What options ask for, and a width that is not possible, if one is asked for. -/
def ofOptions (options : Options) : Except Misuse (Dump × Option Nat) := do
  let address ← match (options.value? 'A').map fun value => (value, value.head?) with
    | none | some (_, some 'o') => pure (some (8, 7))
    | some (_, some 'd') => pure (some (10, 7))
    | some (_, some 'x') => pure (some (16, 6))
    | some (_, some 'n') => pure none
    | some (value, _) =>
      refuse ("invalid output address radix '" ++ value ++
        "'; it must be one character from [doxn]")
  let skipped ← (options.value? 'j').mapM (numberOf 'j')
  let limit ← (options.value? 'N').mapM (numberOf 'N')
  let asked ← options.mapM fun (letter, value) =>
    if letter = 't' then formsOf value (value.length + 1) value
    else match typeOf? letter with
      | some type => formsOf type (type.length + 1) type
      | none => .ok []
  let forms := if asked.flatten.isEmpty then [(ByteForm.numbers .octal 2, false)] else asked.flatten
  let unit := (forms.map fun (form, _) => form.size).foldl Nat.lcm 1
  let width ← (options.value? 'w').mapM fun value =>
    if value.isEmpty then .ok 32 else numberOf 'w' value
  let bad := width.filter fun width => width = 0 || width % unit ≠ 0
  let rowSize := match width, bad with
    | some width, none => width
    | some _, some _ => unit
    | none, _ => if unit < 16 then unit * (16 / unit) else unit
  return ({
    forms, rowSize, address, limit
    all := options.has 'v'
    highFirst := options.value? 'E' = some "big".toList
    skipped := skipped.getD 0 }, bad)

end Dump

end Agenda.Shell.Filter
