import Agenda.Shell.Deed
import Agenda.Shell.FileTool.Place
import Agenda.Shell.Filter
import Agenda.Shell.Printing

/-!
# Modes of files

What may be done with a file, as a number of four octal digits: what its owner may do, its group and
all others, behind a digit for three marks. A mode is chosen by such a number, or by changes to the
one at hand: `u=rwx,go-w`.

What may be done with files is changed, with all that is below directories if that is asked for.
-/

namespace Agenda.Shell.FileTool

/-! ## Modes of files -/

inductive Rights
  /-- The rights of letters; `ifRun` says that the file may be run if somebody may run it. -/
  | letters (bits : Nat) (ifRun : Bool)
  /-- Those that the owner, the group or all others have. -/
  | shared (share : Nat)
  | number (bits : Nat)
deriving DecidableEq

structure Change where
  /-- The bits of those who are named; there are none if nobody is. -/
  who : Nat
  sign : Char
  rights : Rights
deriving DecidableEq

inductive Mode
  /-- All bits as a number; `long` says that the marks of a directory are chosen with it. -/
  | number (bits : Nat) (long : Bool)
  | changes (steps : List Change)
deriving DecidableEq

def allBits : Nat := 4095

def bitsOf (letters : Text) : Nat :=
  let table : List (Char × Nat) := [('u', 2496), ('g', 1080), ('o', 519), ('a', 4095)]
  letters.foldl (fun bits c => bits ||| (table.lookup c).getD 0) 0

def isSign (c : Char) : Bool := c == '+' || c == '-' || c == '='

/-- A text cut before each sign: what is before the first one, and the signs with what is behind
them. -/
def cutAtSigns : Text → Text × List (Char × Text)
  | [] => ([], [])
  | c :: rest =>
    let (start, parts) := cutAtSigns rest
    if isSign c then ([], (c, start) :: parts) else (c :: start, parts)

/-- The rights that stand behind a sign. -/
def rights? (named : Bool) (t : Text) : Option Rights :=
  let table : List (Char × Nat) := [('r', 292), ('w', 146), ('x', 73), ('s', 3072), ('t', 512)]
  if !t.isEmpty && t.all isOctal then
    if named || allBits < ofDigits 8 t then none else some (.number (ofDigits 8 t))
  else match t with
    | ['u'] => some (.shared 448)
    | ['g'] => some (.shared 56)
    | ['o'] => some (.shared 7)
    | t =>
      if t.all "rwxXst".toList.contains then
        some (.letters (t.foldl (fun bits c => bits ||| (table.lookup c).getD 0) 0)
          (t.contains 'X'))
      else none

/-- The changes that a text without commas writes. -/
def changesOf? (t : Text) : Option (List Change) :=
  let (start, parts) := cutAtSigns t
  let who := bitsOf start
  if start.all "ugoa".toList.contains && !parts.isEmpty then
    parts.mapM fun (sign, body) => (rights? (who ≠ 0) body).map fun rights => ⟨who, sign, rights⟩
  else none

def Mode.ofText? (t : Text) : Option Mode :=
  if !t.isEmpty && t.all isOctal then
    if allBits < ofDigits 8 t then none else some (.number (ofDigits 8 t) (4 < t.length))
  else ((t.splitOn ',').mapM changesOf?).map fun changes => .changes changes.flatten

/-- The bits that stand for the same right of everybody as some bits of a mode do. -/
def spread (bits : Nat) : Nat :=
  (if bits &&& 292 ≠ 0 then 292 else 0) ||| (if bits &&& 146 ≠ 0 then 146 else 0) |||
    if bits &&& 73 ≠ 0 then 73 else 0

/-- The mode that a change makes of another one. Where nobody is named all are meant, but for what
may not be done with new files; a directory keeps its marks if these are not chosen. -/
def Change.applied (change : Change) (mask : Nat) (directory : Bool) (mode : Nat) : Nat :=
  let (who, value, mentioned) : Nat × Nat × Nat := match change.rights with
    | .number bits => (allBits, bits, allBits)
    | .shared share => (change.who, spread (mode &&& share), 0)
    | .letters bits ifRun =>
      (change.who, bits ||| (if ifRun && (directory || mode &&& 73 ≠ 0) then 73 else 0), bits)
  let kept := if directory then 3072 &&& (allBits ^^^ mentioned) else 0
  let value := value &&& (if who = 0 then allBits ^^^ mask else who) &&& (allBits ^^^ kept)
  if change.sign = '+' then mode ||| value
  else if change.sign = '-' then mode &&& (allBits ^^^ value)
  else (mode &&& ((if who = 0 then 0 else allBits ^^^ who) ||| kept)) ||| value

def Mode.applied (chosen : Mode) (mask : Nat) (directory : Bool) (mode : Nat) : Nat :=
  match chosen with
  | .number bits long => if directory && !long then bits ||| (mode &&& 3072) else bits
  | .changes steps => steps.foldl (fun mode change => change.applied mask directory mode) mode

def modeDigits (mode : Nat) : Text := Nat.toDigits 8 mode

/-- A mode in letters: nine of them, for the owner, the group and all others. -/
def modeLetters (mode : Nat) : Text :=
  let rights (unit mark : Nat) (marked plain : Char) : Text :=
    let digit := mode / unit % 8
    let runs := digit % 2 = 1
    [if digit / 4 % 2 = 1 then 'r' else '-', if digit / 2 % 2 = 1 then 'w' else '-',
      if mode &&& mark ≠ 0 then (if runs then marked else plain) else if runs then 'x' else '-']
  rights 64 2048 's' 'S' ++ rights 8 1024 's' 'S' ++ rights 1 512 't' 'T'

example : (Mode.ofText? "u=rwx,g=rx,o=".toList).map (·.applied 18 false 420) = some 488 := by
  cbv

example : (Mode.ofText? "+x".toList).map (·.applied 18 false 420) = some 493 := by cbv

example : modeLetters 1005 = "rwxr-xr-t".toList := by decide

/-! ## Changing modes -/

/-- A mode in four digits and in letters. -/
def modeInFull (mode : Nat) : Text :=
  let digits := modeDigits mode
  List.replicate (4 - digits.length) '0' ++ digits ++ " (" ++ modeLetters mode ++ ")"

/-- Changes the mode of what is at a place. `exact` says that the change was written like an
option; then it has to come to the same as if all had been named. -/
def remode (options : Options) (exact : Bool) (mode : Mode) (path : Text) (place : Place)
    (entry : Entry) (deed : Deed) : Deed :=
  let old := rightsOf entry
  let (disk, new) : Disk × Nat := match entry with
    | .file file =>
      let new := mode.applied deed.disk.mask false old
      (deed.disk.putFile place (withMode new file), new)
    | .directory _ =>
      let new := mode.applied deed.disk.mask true old
      (deed.disk.put place (.directory new), new)
    | .link _ => (deed.disk, old)
  let deed := deed.on disk
  let deed :=
    if old = new then
      if options.has 'v' then
        deed.tell ("mode of " ++ shown path ++ " retained as " ++ modeInFull old ++ "\n")
      else deed
    else if options.has 'v' || options.has 'c' then
      deed.tell ("mode of " ++ shown path ++ " changed from " ++ modeInFull old ++ " to " ++
        modeInFull new ++ "\n")
    else deed
  let plain := mode.applied 0 entry.isDirectory old
  if exact && new &&& (allBits ^^^ plain) ≠ 0 then
    deed.fail (named path ++ ": new permissions are " ++ modeLetters new ++ ", not " ++
      modeLetters plain)
  else deed

/-- Changes the modes of what is at a place and of all below it. -/
def remodeBelow (options : Options) (exact : Bool) (mode : Mode) :
    Nat → (path : Text) → Place → Entry → Deed → Deed
  | 0, _, _, _, deed => deed
  | fuel + 1, path, place, entry, deed =>
    let deed := remode options exact mode path place entry deed
    (deed.disk.children place).foldl (fun deed name =>
      match deed.disk.get? (place ++ [name]) with
      | some entry =>
        remodeBelow options exact mode fuel (below path name) (place ++ [name]) entry deed
      | none => deed) deed

def remodes (here : Place) (options : Options) (deed : Deed) (operands : List Text) :
    Except Misuse Deed := do
  let letters := (options.map (·.1)).filter "rwxXstugoa,+=01234567".toList.contains
  let exact := !letters.isEmpty
  let (chosen, paths) : Text × List Text :=
    if exact then ('-' :: letters, operands) else (operands.headD [], operands.tail)
  let mode : Mode ← match options.value? 'F', operands with
    | some path, _ =>
      match look deed.disk true here path with
      | .ok (_, entry) => pure (Mode.number (rightsOf entry) true)
      | .error reason => Filter.refuse (complaint "failed to get attributes of" path reason)
    | none, [] => throw (Misuse.fewOperands none)
    | none, _ =>
      if paths.isEmpty then throw (Misuse.fewOperands (some chosen))
      else match Mode.ofText? chosen with
        | some mode => pure mode
        | none => Filter.refuseWithHint ("invalid mode: " ++ printed chosen)
  let paths := if (options.value? 'F').isSome then operands else paths
  if paths.isEmpty then throw (Misuse.fewOperands none)
  else return paths.foldl (fun deed path =>
    match look deed.disk true here path with
    | .error reason =>
      if options.has 'f' then deed.lose
      else if (self? deed.disk here path).isSome then
        deed.fail ("cannot operate on dangling symlink " ++ shown path)
      else deed.fail (complaint "cannot access" path reason)
    | .ok (place, entry) =>
      if options.has 'R' then
        remodeBelow options exact mode (deed.disk.entries.length + 1) path place entry deed
      else remode options exact mode path place entry deed) deed

end Agenda.Shell.FileTool
