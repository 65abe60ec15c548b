import Agenda.Shell.Filter

/-!
# Parts of a text

How `split` divides a text: into parts of so many lines or bytes, or into so many parts, and how it
names the files that the parts are written to.
-/

namespace Agenda.Shell.Filter

/-- How the parts of a given number are made: by size, by size without breaking lines, or by dealing
out the lines. -/
inductive Shares
  | bytes
  | lines
  | dealt
deriving DecidableEq

inductive Division
  | lines (count : Nat)
  | bytes (count : Nat)
  /-- As many lines as have so many bytes; longer lines are broken. -/
  | fullLines (bytes : Nat)
  /-- So many parts, of which only one may be wanted. -/
  | inShares (shares : Shares) (wanted : Option Nat) (count : Nat)

namespace Division

def inParts {α : Type} (size : Nat) : Nat → List α → List (List α)
  | 0, _ => []
  | _, [] => []
  | fuel + 1, items => items.take size :: inParts size fuel (items.drop size)

/-- Lines packed from the front into parts of at most so many bytes; `held` is the part at hand. -/
def packedFrom (size : Nat) : Nat → (held : Text) → List Text → List Text
  | 0, held, _ => [held]
  | _, held, [] => if held.isEmpty then [] else [held]
  | fuel + 1, held, line :: rest =>
    if held.length + line.length ≤ size then packedFrom size fuel (held ++ line) rest
    else if !held.isEmpty then held :: packedFrom size fuel [] (line :: rest)
    else line.take size :: packedFrom size fuel [] (line.drop size :: rest)

/-- The size of one of so many parts of something, from zero on. -/
def shareOf (size count index : Nat) : Nat :=
  size / count + if index < size % count then 1 else 0

def beforePlace (place : Nat) : (start : Nat) → List Text → List Text × List Text
  | _, [] => ([], [])
  | start, line :: rest =>
    if start < place then
      let (these, others) := beforePlace place (start + line.length) rest
      (line :: these, others)
    else ([], line :: rest)

/-- Lines in so many parts, each with the lines that start in it; `index` is that of the next part,
`place` where it starts, and `start` where the next line starts. -/
def lineShares (size count : Nat) : (left index place start : Nat) → List Text → List Text
  | 0, _, _, _, _ => []
  | left + 1, index, place, start, records =>
    let stop := place + shareOf size count index
    let (these, others) := beforePlace stop start records
    let part := these.flatten
    part :: lineShares size count left (index + 1) stop (start + part.length) others

def byteShares (size count : Nat) : (left index : Nat) → Text → List Text
  | 0, _, _ => []
  | left + 1, index, t =>
    let own := shareOf size count index
    t.take own :: byteShares size count left (index + 1) (t.drop own)

def parts (division : Division) (mark : Char) (t : Text) : List Text :=
  let records := fullLinesAt mark t
  match division with
  | .lines count => (inParts count (records.length + 1) records).map List.flatten
  | .bytes count => inParts count (t.length + 1) t
  | .fullLines size => packedFrom size (3 * t.length + 2) [] records
  | .inShares .bytes _ count => byteShares t.length count count 0 t
  | .inShares .lines _ count => lineShares t.length count count 0 0 0 records
  | .inShares .dealt _ count => (List.range count).map fun index =>
    ((records.zipIdx.filter fun (_, n) => n % count = index).map (·.1)).flatten

/-- A number of lines or bytes, which may not be zero. -/
def amountOf (what value : Text) (number? : Text → Option Nat) : Except Misuse Nat :=
  match number? value with
  | some 0 | none => .error (.badValue what value)
  | some n => .ok n

def partsOf (value : Text) : Except Misuse Division := do
  let (shares, rest) : Shares × Text := match value with
    | 'l' :: '/' :: rest => (.lines, rest)
    | 'r' :: '/' :: rest => (.dealt, rest)
    | rest => (.bytes, rest)
  let chunks : Text := "number of chunks"
  match Text.cutAt? '/' rest with
  | none => return .inShares shares none (← amountOf chunks rest amount?)
  | some (wanted, count) =>
    match amount? wanted with
    | none => throw (Misuse.badValue chunks rest)
    | some wantedNumber =>
      let count ← amountOf chunks count amount?
      if wantedNumber = 0 ∨ count < wantedNumber then throw (Misuse.badValue "chunk number" wanted)
      else return .inShares shares (some wantedNumber) count

def ofOptions (options : Options) : Except Misuse Division := do
  let asked ← (options.filter fun option => "lbCn#".toList.contains option.1).mapM
    fun (letter, value) =>
      if letter = 'l' then Division.lines <$> amountOf "number of lines" value whole?
      else if letter = '#' then Division.lines <$> amountOf "number of lines" value whole?
      else if letter = 'b' then Division.bytes <$> amountOf "number of bytes" value amount?
      else if letter = 'C' then Division.fullLines <$> amountOf "number of lines" value amount?
      else partsOf value
  let letters := (options.map (·.1)).filter "lbCn".toList.contains
  if 1 < letters.length then refuseWithHint "cannot split in more than one way"
  return asked.getLast?.getD (.lines 1000)

end Division

structure PartNames where
  start : Text
  signs : Text
  length : Nat
  /-- Whether the endings get longer when there are no more. -/
  grows : Bool
  first : Nat
  ending : Text

namespace PartNames

def written (signs : Text) : (length : Nat) → Nat → Text
  | 0, _ => []
  | length + 1, n => written signs length (n / signs.length) ++ [signs.getD (n % signs.length) 'a']

/-- An ending that may be longer than others before it: all endings that start with the last sign
are kept for the longer ones. -/
def grown (signs : Text) : Nat → (length : Nat) → Nat → Text
  | 0, _, _ => []
  | fuel + 1, length, n =>
    let count := (signs.length - 1) * Nat.pow signs.length (length - 1)
    if n < count then written signs length n
    else (signs.getLast?.toList) ++ grown signs fuel (length + 1) (n - count)

/-- The name of a part from zero on, if there are enough of them. -/
def name? (names : PartNames) (index : Nat) : Option Text :=
  let n := names.first + index
  if names.grows then
    some (names.start ++ grown names.signs (n + 1) names.length n ++ names.ending)
  else if n < Nat.pow names.signs.length names.length then
    some (names.start ++ written names.signs names.length n ++ names.ending)
  else none

/-- The number of signs that the ending of some number needs. -/
def signsFor (signs : Text) : Nat → Nat → Nat
  | 0, _ => 1
  | fuel + 1, n => if n < signs.length then 1 else signsFor signs fuel (n / signs.length) + 1

/-- The signs that endings are written with, and the number of the first one. -/
def signsOf (options : Options) : Except Misuse (Text × Option Nat) :=
  let firstOf (what value : Text) (number? : Text → Option Nat) : Except Misuse (Option Nat) :=
    if value.isEmpty then .ok none
    else match number? value with
      | some n => .ok (some n)
      | none => refuseWithHint (Misuse.marked value ++ ": invalid start value for " ++ what ++
        " suffix")
  let digits : Text := "0123456789abcdef"
  let hex? (t : Text) : Option Nat :=
    if t.all fun c => (Text.hexValue? c).isSome then
      some (t.foldl (fun n c => 16 * n + (Text.hexValue? c).getD 0) 0)
    else none
  match (options.filter fun option => "dDxY".toList.contains option.1).getLast? with
  | some ('d', value) | some ('D', value) => (firstOf "numerical" value whole?).map (digits.take 10, ·)
  | some (_, value) => (firstOf "hexadecimal" value hex?).map (digits, ·)
  | none => .ok ("abcdefghijklmnopqrstuvwxyz", none)

def ofOptions (options : Options) (division : Division) (start : Text) : Except Misuse PartNames := do
  let (signs, first) ← signsOf options
  let ending := (options.value? 'X').getD []
  if ending.contains '/' then
    refuseWithHint ("invalid suffix " ++ Misuse.marked ending ++
      ", contains directory separator")
  let length ← (options.value? 'a').mapM fun value =>
    match whole? value with
    | some n => pure n
    | none => throw (Misuse.badValue "suffix length" value)
  let asked := length.getD 0
  let needed := match division with
    | .inShares _ _ count => some (signsFor signs count (first.getD 0 + count - 1))
    | _ => none
  if asked ≠ 0 ∧ asked < needed.getD 0 then
    refuse ("the suffix length needs to be at least " ++ Text.ofNat (needed.getD 0))
  return {
    start, signs, ending
    length := if asked ≠ 0 then asked else max 2 (needed.getD 0)
    grows := asked = 0 && needed.isNone && first.isNone
    first := first.getD 0 }

end PartNames

end Agenda.Shell.Filter
