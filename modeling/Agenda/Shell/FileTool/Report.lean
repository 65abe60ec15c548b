import Agenda.Shell.Deed
import Agenda.Shell.FileTool.Mode
import Agenda.Shell.FileTool.Place
import Agenda.Shell.FileTool.Remove
import Agenda.Shell.Clock.Format
import Agenda.Shell.Filter

/-!
# Reports on files

The tools that tell something about files: their names, what they are, how large they are, and where
symbolic links lead to.
-/

namespace Agenda.Shell.FileTool

/-- The letter of what something is and those of its mode. -/
def rightsInLetters (entry : Entry) : Text :=
  (match entry with
    | .directory _ => 'd'
    | .file _ => '-'
    | .link _ => 'l') :: modeLetters (rightsOf entry)

def nameCount (disk : Disk) (place : Place) : Entry → Nat
  | .directory _ => 2 + ((disk.children place).filter fun name =>
      disk.isDirectory (place ++ [name])).length
  | .link _ => 1
  | .file file =>
    if file.group.isNone then 1
    else (disk.entries.filter fun (_, entry) =>
      match entry with
      | .file other => other.group = file.group
      | _ => false).length

/-- How many blocks of 1024 bytes something takes. -/
def blocksOf : Entry → Nat
  | .directory _ => 4
  | .file file => (file.contents.size + 4095) / 4096 * 4
  | .link _ => 0

/-- The number by which the system knows what something is and its mode. -/
def rawMode (entry : Entry) : Nat :=
  rightsOf entry + match entry with
    | .directory _ => 16384
    | .file _ => 32768
    | .link _ => 40960

/-- What letters behind a per cent sign stand for in a report on what a path leads to. -/
def fact? (disk : Disk) (path : Text) (place : Place) (entry : Entry) (letters : Text) :
    Option Text :=
  let moment := timeOf entry
  match letters with
  | ['n'] => some (raw path)
  | ['N'] => some (raw (shown path ++ match entry with
      | .link target => " -> " ++ shown target
      | _ => []))
  | ['s'] => some (Text.ofNat (sizeOf entry))
  | ['F'] => some (kindOf entry)
  | ['a'] => some (modeDigits (rightsOf entry))
  | ['A'] => some (rightsInLetters entry)
  | ['U'] | ['G'] => some "root"
  | ['u'] | ['g'] => some "0"
  | ['h'] => some (Text.ofNat (nameCount disk place entry))
  | ['b'] => some (Text.ofNat (2 * blocksOf entry))
  | ['B'] => some "512"
  | ['o'] => some "4096"
  | ['f'] => some (Nat.toDigits 16 (rawMode entry))
  | ['t'] | ['T'] | ['W'] => some "0"
  | ['w'] => some "-"
  | ['X'] | ['Y'] | ['Z'] => some (Text.ofInt (moment / 1000))
  | ['x'] | ['y'] | ['z'] => some (Clock.formatted moment "%Y-%m-%d %H:%M:%S.%N %z")
  | _ => none

/-- A format with its fields replaced; some letters take the one behind them, too. -/
def filled (double : Text) (facts : Text → Text) : List Piece → Text
  | [] => []
  | .text c :: rest => c :: filled double facts rest
  | .field field _ :: .text c :: rest =>
    if double.contains field.conversion then
      field.fill true [] (facts [field.conversion, c]) ++ filled double facts rest
    else field.fill true [] (facts [field.conversion]) ++ c :: filled double facts rest
  | .field field _ :: rest =>
    field.fill true [] (facts [field.conversion]) ++ filled double facts rest
  | .unfinished t :: rest => t ++ filled double facts rest
  | .ends :: _ => []

def states (here : Place) (options : Options) (deed : Deed) (operands : List Text) :
    Except Misuse Deed :=
  let (pieces, ending) : List Piece × Text := match options.value? 'p', options.value? 'c' with
    | some format, _ => (piecesFrom .toolFormat [] 0 (raw format), [])
    | none, some format =>
      (piecesFrom .plain [] 0 (raw format), ['\n'])
    | none, none => (piecesFrom .plain [] 0 "%n %s", ['\n'])
  if operands.isEmpty then .error (.fewOperands none)
  else .ok (operands.foldl (fun deed path =>
    match look deed.disk (options.has 'L') here path with
    | .error reason => deed.fail (complaint "cannot statx" path reason)
    | .ok (place, entry) =>
      let facts (letters : Text) : Text := (fact? deed.disk path place entry letters).getD ['?']
      deed.say (.prints (filled [] facts pieces ++ ending))) deed)

/-- The place at the end of a path whose names need not be there. -/
def anyPlace (disk : Disk) (here : Place) (path : Text) : Place :=
  (Disk.namesOf path).foldl (fun place name =>
    if name = ['.'] then place
    else if name = ['.', '.'] then place.dropLast
    else match disk.get? (place ++ [name]), disk.final? (place ++ [name]) with
      | some (.link _), some (place, _) => place
      | _, _ => place ++ [name]) (if Text.startsWith "/" path then [] else here)

/-- The place that a path leads to, without links on the way; the options say how much of it there
has to be. -/
def plainPlace (disk : Disk) (here : Place) (options : Options) (path : Text) :
    Except Disk.Reason Place :=
  match look disk true here path, disk.follow here path with
  | .ok (place, _), _ => .ok place
  | .error reason, followed =>
    if path.isEmpty then .error .missing
    else if options.has 'm' && reason ≠ .tooManyLinks then .ok (anyPlace disk here path)
    else if options.has 'e' || reason ≠ .missing then .error reason
    else match followed with
      | .ok target => if disk.isDirectory target.place.dropLast then .ok target.place else .error .missing
      | .error reason => .error reason

/-- Tells what symbolic links lead to. -/
def readsLinks (here : Place) (options : Options) (deed : Deed) (operands : List Text) :
    Except Misuse Deed :=
  let plain := options.has 'f' || options.has 'e' || options.has 'm'
  let several := 1 < operands.length
  let deed := if several && options.has 'n' then
      deed.warn "ignoring --no-newline with multiple arguments"
    else deed
  let ending : Text := if options.has 'n' && !several then []
    else [if options.has 'z' then '\x00' else '\n']
  if operands.isEmpty then .error (.fewOperands none)
  else .ok (operands.foldl (fun deed path =>
    let found : Except Text Text := if plain then
        match plainPlace deed.disk here options path with
        | .ok place => .ok (pathText place)
        | .error reason => .error reason.words
      else match look deed.disk false here path with
        | .ok (_, .link target) => .ok target
        | .ok _ => .error "Invalid argument"
        | .error reason => .error reason.words
    match found with
    | .ok found => deed.say (.prints (raw found ++ ending))
    | .error words => if options.has 'v' then deed.fail (named path ++ ": " ++ words) else deed.lose)
    deed)

/-- Tells the paths of files without links on the way. -/
def plainPaths (here : Place) (options : Options) (deed : Deed) (operands : List Text) :
    Except Misuse Deed := do
  let placeOf (path : Text) : Except Disk.Reason Place :=
    if options.has 's' then .ok (writtenPlace here path)
    else plainPlace deed.disk here options path
  let ending : Text := [if options.has 'z' then '\x00' else '\n']
  let anchor (letter : Char) : Except Misuse (Option Place) :=
    match options.value? letter with
    | none => .ok none
    | some path =>
      match placeOf path with
      | .ok place => .ok (some place)
      | .error reason => Filter.refuse (named path ++ ": " ++ reason.words)
  let start ← anchor '2'
  let base ← anchor '3'
  if operands.isEmpty then throw (Misuse.fewOperands none)
  else return operands.foldl (fun deed path =>
    match placeOf path with
    | .error reason => if options.has 'q' then deed.lose else deed.fail (named path ++ ": " ++ reason.words)
    | .ok place =>
      let text := match base, start with
        | some base, start =>
          if base.isPrefixOf place then pathBetween (start.getD base) place else pathText place
        | none, some start => pathBetween start place
        | none, none => pathText place
      deed.say (.prints (raw text ++ ending))) deed

end Agenda.Shell.FileTool
