import Agenda.Shell.Filter

/-!
# Blocks

How `dd` copies: it reads blocks of a size, from one of them on and up to a number of them, converts
what it reads, and writes blocks of another size.
-/

namespace Agenda.Shell.Filter

/-- A text in blocks of a size; the last one may be shorter. -/
def blocksFrom (size : Nat) : Nat → Text → List Text
  | 0, t => if t.isEmpty then [] else [t]
  | fuel + 1, t => if t.isEmpty then [] else t.take size :: blocksFrom size fuel (t.drop size)

def blocks (size : Nat) (t : Text) : List Text := blocksFrom size t.length t

/-- What `dd` is asked for. -/
structure BlockCopy where
  input : Option Text := none
  output : Option Text := none
  /-- The size of the blocks that are read. -/
  inSize : Nat := 512
  /-- The size of the blocks that are written; without one they are written as they were read. -/
  outSize : Option Nat := none
  /-- The length of records that are filled up or cut. -/
  recordSize : Nat := 0
  /-- The bytes at the start of the input that are left out. -/
  skipped : Nat := 0
  /-- Where in the output writing starts. -/
  start : Nat := 0
  /-- The number of blocks that are read, or of bytes if `byBytes` says so. -/
  count : Option Nat := none
  byBytes : Bool := false
  conversions : List Text := []
  appends : Bool := false
  /-- What is told in the end: all, not the speed, or nothing. -/
  level : Text := []

namespace BlockCopy

/-- The words that may stand behind `conv=`, `iflag=` and `oflag=`. -/
def knownConversions : List Text := ["ascii", "ebcdic", "ibm", "block", "unblock", "lcase", "ucase",
  "sparse", "swab", "sync", "excl", "nocreat", "notrunc", "noerror", "fdatasync", "fsync"]

/-- The flags of the input and of the output. -/
def knownFlags : List Text := ["append", "direct", "directory", "dsync", "sync", "fullblock",
  "nonblock", "noatime", "nocache", "noctty", "nofollow", "count_bytes", "skip_bytes",
  "seek_bytes"]

/-- A number, or the product of several with the letter `x` between them. -/
def number? (t : Text) : Option Nat :=
  let units : List (Text × Nat) := [("c", 1), ("w", 2), ("B", 1), ("kB", 1000), ("MB", 1000000)]
  let one? (t : Text) : Option Nat :=
    let digits := t.takeWhile Text.isDigit
    if digits.isEmpty then none
    else match units.lookup (t.drop digits.length) with
      | some unit => some (Text.natOfDigits digits * unit)
      | none => amount? t
  (t.splitOn 'x').foldr (fun t product => do return (← one? t) * (← product)) (some 1)

/-- A number, or what is said if it is none. -/
def number (positive : Bool) (t : Text) : Except Misuse Nat :=
  match number? t with
  | some n =>
    if 9223372036854775807 < n then
      refuse ("invalid number: '" ++ t ++ "': Value too large for defined data type")
    else if positive ∧ n = 0 then refuse ("invalid number: '" ++ t ++ "'")
    else .ok n
  | none => refuse ("invalid number: '" ++ t ++ "'")

def known (words : List Text) (what t : Text) : Except Misuse (List Text) :=
  let found := t.splitOn ','
  match found.find? fun word => !words.contains word with
  | some word => refuseWithHint ("invalid " ++ what ++ ": " ++ Misuse.marked word)
  | none => .ok found

/-- What the operands ask for. Numbers of blocks are told before it is known how large these are,
so sizes are read first. -/
def ofOperands (operands : List Text) : Except Misuse BlockCopy := do
  let pairs ← operands.mapM fun operand =>
    match Text.cutAt? '=' operand with
    | some (name, value) =>
      if [("if" : Text), "of", "ibs", "obs", "bs", "cbs", "skip", "iseek", "seek", "oseek", "count",
          "conv", "iflag", "oflag", "status"].contains name then Except.ok (name, value)
      else refuseWithHint ("unrecognized operand '" ++ operand ++ "'")
    | none => refuseWithHint ("unrecognized operand '" ++ operand ++ "'")
  let value? (names : List Text) : Option Text :=
    (pairs.reverse.find? fun (name, _) => names.contains name).map (·.2)
  let all (name : Text) : List Text :=
    pairs.filterMap fun (own, value) => if own = name then some value else none
  let conversions ← (all "conv").mapM (known knownConversions "conversion")
  let inFlags ← (all "iflag").mapM (known knownFlags "input flag")
  let outFlags ← (all "oflag").mapM (known knownFlags "output flag")
  let level := (value? ["status"]).getD []
  if !([[], ("none" : Text), "noxfer", "progress"].contains level) then
    refuseWithHint ("invalid status level: " ++ Misuse.marked level)
  let both ← (value? ["bs"]).mapM (number true)
  let inSize ← (value? ["ibs"]).mapM (number true)
  let outSize ← (value? ["obs"]).mapM (number true)
  let recordSize ← (value? ["cbs"]).mapM (number true)
  let skipped ← (value? ["skip", "iseek"]).mapM (number false)
  let start ← (value? ["seek", "oseek"]).mapM (number false)
  let count ← (value? ["count"]).mapM (number false)
  let inBytes (names : List Text) (flags : List (List Text)) (flag : Text) : Bool :=
    (value? names).any (Text.endsWith "B") || flags.flatten.contains flag
  let has (word : Text) : Bool := conversions.flatten.contains word
  if 1 < ([("ascii" : Text), "ebcdic", "ibm"].filter has).length then
    refuse "cannot combine any two of \x7bascii,ebcdic,ibm\x7d"
  if has "block" && has "unblock" then refuse "cannot combine block and unblock"
  if has "lcase" && has "ucase" then refuse "cannot combine lcase and ucase"
  if has "excl" && has "nocreat" then refuse "cannot combine excl and nocreat"
  let inSize := both.getD (inSize.getD 512)
  return {
    input := value? ["if"]
    output := value? ["of"]
    inSize
    outSize := if both.isSome then none else some (outSize.getD 512)
    recordSize := recordSize.getD 0
    skipped := skipped.getD 0 *
      if inBytes ["skip", "iseek"] inFlags "skip_bytes" then 1 else inSize
    start := start.getD 0 *
      if inBytes ["seek", "oseek"] outFlags "seek_bytes" then 1
      else both.getD (outSize.getD 512)
    count
    byBytes := inBytes ["count"] inFlags "count_bytes"
    conversions := conversions.flatten
    appends := outFlags.flatten.contains "append".toList
    level }

def converts (copy : BlockCopy) (name : Text) : Bool := copy.conversions.contains name

def read (copy : BlockCopy) (t : Text) : List Text :=
  let t := t.drop copy.skipped
  match copy.count with
  | none => blocks copy.inSize t
  | some count =>
    if copy.byBytes then blocks copy.inSize (t.take count)
    else (blocks copy.inSize (t.take (count * copy.inSize))).take count

/-- A text with every two bytes in the order of each other. -/
def swapped : Text → Text
  | a :: b :: rest => b :: a :: swapped rest
  | t => t

/-- What becomes of what is read. -/
def converted (copy : BlockCopy) (t : Text) : Text :=
  let t := if copy.converts "swab" then swapped t else t
  let t := if copy.converts "ucase" then t.map Char.toUpper
    else if copy.converts "lcase" then t.map Char.toLower
    else t
  if copy.recordSize = 0 then t
  else if copy.converts "block" then
    (linesOf t).flatMap fun line =>
      line.take copy.recordSize ++ List.replicate (copy.recordSize - line.length) ' '
  else if copy.converts "unblock" then
    printed ((blocks copy.recordSize t).map fun record =>
      (record.reverse.dropWhile (· = ' ')).reverse)
  else t

/-- A block that is read, filled up if that is asked for. -/
def filledBlock (copy : BlockCopy) (block : Text) : Text :=
  if copy.converts "sync" then
    block ++ List.replicate (copy.inSize - block.length)
      (if copy.converts "block" || copy.converts "unblock" then ' ' else '\x00')
  else block

def write (copy : BlockCopy) (found : List Text) : List Text :=
  let found := found.map copy.filledBlock
  match copy.outSize with
  | some size => blocks size (copy.converted found.flatten)
  | none =>
    if copy.recordSize = 0 && !copy.converts "swab" then
      found.map fun block => copy.converted block
    else blocks copy.inSize (copy.converted found.flatten)

/-- How many blocks are whole, and how many are not. -/
def tally (size : Nat) (found : List Text) : Text :=
  let whole := found.countP fun block => block.length = size
  Text.ofNat whole ++ '+' :: Text.ofNat (found.length - whole)

/-- A number of bytes in units of a thousand or of 1024. -/
def inUnits (base : Nat) (letters : Text) (ending : Text) (n : Nat) : Text :=
  let power := ((List.range 7).filter fun k => Nat.pow base k ≤ n).length - 1
  let unit := Nat.pow base power
  let tenths := (n * 10 + unit / 2) / unit
  (if tenths < 100 then Text.ofNat (tenths / 10) ++ '.' :: Text.ofNat (tenths % 10)
    else Text.ofNat ((n + unit / 2) / unit)) ++ ' ' :: letters.getD (power - 1) 'k' :: ending

/-- What is told in the end. -/
def report (copy : BlockCopy) (found written : List Text) : List Text :=
  if copy.level = "none".toList then []
  else
    let n := written.flatten.length
    let binary : Text := if n < 1024 then [] else ", " ++ inUnits 1024 "KMGTPE" "iB" n
    let short : Text := if n < 1000 then [] else " (" ++ inUnits 1000 "kMGTPE" "B" n ++ binary ++ ")"
    let unit : Text := if n = 1 then " byte" else " bytes"
    let size := Text.ofNat n ++ unit ++ short
    let speed : List Text := if copy.level = "noxfer".toList then []
      else [size ++ " copied, 0.0001 s, " ++ inUnits 1000 "kMGTPE" "B/s" (10000 * n + 1000)]
    [tally copy.inSize found ++ " records in",
      tally (copy.outSize.getD copy.inSize) written ++ " records out"] ++ speed

end BlockCopy

end Agenda.Shell.Filter
