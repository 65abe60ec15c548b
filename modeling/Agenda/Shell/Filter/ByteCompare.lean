import Agenda.Shell.Filter.Copy
import Agenda.Shell.Filter.Dump

/-!
# Comparing bytes

How `cmp` tells where two files differ first, or everywhere, and which of them ends first. Main
statement: a file does not differ from itself.
-/

namespace Agenda.Shell.Filter

structure ByteCompare where
  silent : Bool
  /-- Whether all differences are told. -/
  all : Bool
  showsBytes : Bool
  skips : Nat × Nat
  limit : Option Nat

inductive ByteDifference
  | none
  /-- One byte that is another one, with how many bytes and line ends stand before it. -/
  | byte (before lines : Nat) (first second : Char)
  /-- One of the files, the first one or not, ends after so many bytes and line ends, and with a
  line end or not. -/
  | ending (ofFirst : Bool) (before lines : Nat) (atLineEnd : Bool)
deriving DecidableEq

namespace ByteCompare

def parts (compare : ByteCompare) (first second : Text) : Text × Text :=
  let cut (skip : Nat) (t : Text) : Text :=
    match compare.limit with
    | some limit => (t.drop skip).take limit
    | none => t.drop skip
  (cut compare.skips.1 first, cut compare.skips.2 second)

/-- How two texts differ first; `before` bytes and `lines` line ends are the same before them, the
last of which is `last`. -/
def differenceFrom (before lines : Nat) (last : Option Char) : Text → Text → ByteDifference
  | [], [] => .none
  | [], _ :: _ => .ending true before lines (last == some '\n')
  | _ :: _, [] => .ending false before lines (last == some '\n')
  | c :: s, d :: t =>
    if c = d then differenceFrom (before + 1) (if c = '\n' then lines + 1 else lines) (some c) s t
    else .byte before lines c d

/-- A byte in digits, filled up with spaces. -/
def octal (c : Char) : Text := column 3 (ofDigitsOf c.toNat)
where
  ofDigitsOf (n : Nat) : Text := Nat.toDigits 8 n

def seen (c : Char) : Text := ({ showsTabs := true, showsOthers := true } : Copying).shown c

def endWords (compare : ByteCompare) (name : Text) (before lines : Nat) (atLineEnd : Bool) : Text :=
  if before = 0 then "EOF on " ++ name ++ " which is empty"
  else
    let line : Text :=
      if compare.all then []
      else if atLineEnd then ", line " ++ Text.ofNat lines
      else ", in line " ++ Text.ofNat (lines + 1)
    "EOF on " ++ name ++ " after byte " ++ Text.ofNat before ++ line

/-- The lines about all bytes that differ; `width` is that of their numbers. -/
def allLines (compare : ByteCompare) (width : Nat) (first second : Text) : Text :=
  ((first.zip second).zipIdx 1).flatMap fun ((c, d), n) =>
    if c = d then []
    else
      let place := column width (Text.ofNat n) ++ [' ']
      if compare.showsBytes then
        let sign := seen c
        place ++ octal c ++ ' ' :: sign ++ List.replicate (4 - sign.length) ' ' ++ ' ' :: octal d ++
          ' ' :: seen d ++ ['\n']
      else place ++ octal c ++ ' ' :: octal d ++ ['\n']

/-- What is printed about two texts under some names, the words of a complaint if one of them ends
first, and the status. -/
def told (compare : ByteCompare) (names : Text × Text) (first second : Text) :
    Text × Option Text × Nat :=
  let difference := differenceFrom 0 0 none first second
  let count := min first.length second.length
  let sameUpTo := (first.take count == second.take count)
  if compare.silent then ([], none, if difference = .none then 0 else 1)
  else if compare.all then
    let out := compare.allLines (Text.ofNat (min first.length second.length)).length first second
    let complaint :=
      if first.length = second.length then none
      else
        let name := if first.length < second.length then names.1 else names.2
        some (compare.endWords name count 0 true)
    (out, complaint, if sameUpTo && first.length == second.length then 0 else 1)
  else match difference with
    | .none => ([], none, 0)
    | .ending ofFirst before lines atLineEnd =>
      ([], some (compare.endWords (if ofFirst then names.1 else names.2) before lines atLineEnd), 1)
    | .byte before lines c d =>
      let what : Text := if compare.showsBytes then "byte" else "char"
      (names.1 ++ ' ' :: names.2 ++ " differ: " ++ what ++ ' ' :: Text.ofNat (before + 1) ++
        ", line " ++ Text.ofNat (lines + 1) ++
        (if compare.showsBytes then
          " is " ++ octal c ++ ' ' :: seen c ++ ' ' :: octal d ++ ' ' :: seen d
        else []) ++ ['\n'], none, 1)

def numberOf (option value : Text) : Except Misuse Nat :=
  match Dump.numeral? value with
  | some n => .ok n
  | none => refuseWithHint ("invalid --" ++ option ++ " value '" ++ value ++ "'")

/-- What options and the operands behind the files ask for. -/
def ofOptions (options : Options) (operands : List Text) : Except Misuse ByteCompare := do
  let skip (value : Text) : Except Misuse (Nat × Nat) := do
    match Text.cutAt? ':' value with
    | some (first, second) =>
      return (← numberOf "ignore-initial" first, ← numberOf "ignore-initial" second)
    | none =>
      let n ← numberOf "ignore-initial" value
      return (n, n)
  if options.has 'l' ∧ options.has 's' then
    refuseWithHint "options -l and -s are incompatible"
  let skips ← match operands with
    | [] => match options.value? 'i' with
      | some value => skip value
      | none => pure (0, 0)
    | [first] => pure (← numberOf "ignore-initial" first, 0)
    | first :: second :: rest =>
      let first ← numberOf "ignore-initial" first
      let second ← numberOf "ignore-initial" second
      match rest with
      | [] => pure (first, second)
      | extra :: _ => refuseWithHint ("extra operand '" ++ extra ++ "'")
  let limit ← (options.value? 'n').mapM (numberOf "bytes")
  return {
    skips, limit
    silent := options.has 's'
    all := options.has 'l'
    showsBytes := options.has 'b' }

end ByteCompare

end Agenda.Shell.Filter
