import Agenda.Shell.Deed
import Agenda.Shell.FileTool.Place
import Agenda.Shell.Filter

/-!
# Removing files

Files are removed, and directories if they are empty or if that is asked for. Before each step it
can be asked whether it is to be taken.
-/

namespace Agenda.Shell.FileTool

/-- What something is called when it is asked whether it is to be removed. -/
def kindOf : Entry → Text
  | .directory _ => "directory"
  | .file file => if file.contents.isEmpty then "regular empty file" else "regular file"
  | .link _ => "symbolic link"

/-- Whether it is asked before each step, as the last one of the options says that are about it. -/
def asks (options : Options) : Bool :=
  match options.reverse.find? fun (letter, _) => "ifIA".toList.contains letter with
  | some ('i', _) => true
  | some ('A', value) => [("" : Text), "always", "yes"].contains value
  | _ => false

/-- Whether it is asked once, before the first step. -/
def asksOnce (options : Options) : Bool :=
  match options.reverse.find? fun (letter, _) => "ifIA".toList.contains letter with
  | some ('I', _) => true
  | some ('A', value) => value = "once".toList
  | _ => false

/-- Does a step if a question is answered with yes, or without asking. -/
def ifGranted (options : Options) (words : Text) (deed : Deed) (step : Deed → Bool × Deed) :
    Bool × Deed :=
  if asks options then
    let (yes, deed) := deed.ask words
    if yes then step deed else (false, deed)
  else step deed

/-- Removes what is at a place, with all below it if asked to; and says whether it is gone. -/
def removeBelow (options : Options) : Nat → (path : Text) → Place → Entry → Deed → Bool × Deed
  | 0, _, _, _, deed => (false, deed)
  | fuel + 1, path, place, entry, deed =>
    let gone (words : Text) (deed : Deed) : Bool × Deed :=
      let deed := deed.on (deed.disk.erase place)
      (true, if options.has 'v' then deed.tell ("removed " ++ words ++ shown path ++ "\n") else deed)
    let names := deed.disk.children place
    if !entry.isDirectory then
      ifGranted options ("remove " ++ kindOf entry ++ " " ++ shown path ++ "? ") deed (gone [])
    else if names.isEmpty then
      ifGranted options ("remove directory " ++ shown path ++ "? ") deed (gone "directory ")
    else
      ifGranted options ("descend into directory " ++ shown path ++ "? ") deed fun deed =>
        let (all, deed) := names.foldl (fun (all, deed) name =>
          match deed.disk.get? (place ++ [name]) with
          | some entry =>
            let (one, deed) :=
              removeBelow options fuel (below path name) (place ++ [name]) entry deed
            (all && one, deed)
          | none => (all, deed)) (true, deed)
        if all then
          ifGranted options ("remove directory " ++ shown path ++ "? ") deed (gone "directory ")
        else (false, deed)

def removeAt (here : Place) (options : Options) (deed : Deed) (path : Text) : Deed :=
  let deep := options.has 'r' || options.has 'R'
  let bare := (path.reverse.dropWhile (· = '/')).reverse
  let fuel := deed.disk.entries.length + 1
  match look deed.disk false here path with
  | .error reason =>
    if options.has 'f' && (reason == .missing || reason == .notDirectory) then deed
    else deed.fail (complaint "cannot remove" path reason)
  | .ok (place, entry) =>
    if !entry.isDirectory then (removeBelow options fuel path place entry deed).2
    else
      let empty := (deed.disk.children place).isEmpty
      if deep && bare.isEmpty then
        (deed.fail "it is dangerous to operate recursively on '/'").fail
          "use --no-preserve-root to override this failsafe"
      else if !deep && !options.has 'd' then
        deed.fail (complaint "cannot remove" path .isDirectory)
      else if !deep && !empty then deed.fail (complaint "cannot remove" path .notEmpty)
      else if [['.'], ['.', '.']].contains (lastName path) then
        deed.fail ("refusing to remove '.' or '..' directory: skipping " ++ shown path)
      else match self? deed.disk here bare with
        | some (_, .link _) =>
          let deed := (deed.disk.children place).foldl (fun deed name =>
            match deed.disk.get? (place ++ [name]) with
            | some entry =>
              (removeBelow options fuel (below path name) (place ++ [name]) entry deed).2
            | none => deed) deed
          deed.fail (complaint "cannot remove" path .notDirectory)
        | _ => (removeBelow options fuel path place entry deed).2

def removes (here : Place) (options : Options) (deed : Deed) (operands : List Text) :
    Except Misuse Deed :=
  let deep := options.has 'r' || options.has 'R'
  if operands.isEmpty then
    if options.has 'f' then .ok deed else .error (.fewOperands none)
  else if asksOnce options && (deep || 3 < operands.length) then
    let count := operands.length
    let (yes, deed) := deed.ask ("remove " ++ Text.ofNat count ++
      (if count = 1 then " argument" else " arguments") ++ (if deep then " recursively? " else "? "))
    .ok (if yes then operands.foldl (removeAt here options) deed else deed)
  else .ok (operands.foldl (removeAt here options) deed)

def unlinks (here : Place) (deed : Deed) (operands : List Text) : Except Misuse Deed :=
  match operands with
  | [] => .error (.fewOperands none)
  | [path] =>
    match look deed.disk false here path with
    | .error reason => .ok (deed.fail (complaint "cannot unlink" path reason))
    | .ok (_, .directory _) => .ok (deed.fail (complaint "cannot unlink" path .isDirectory))
    | .ok (place, _) => .ok (deed.on (deed.disk.erase place))
  | _ :: operand :: _ => .error (.excessOperand operand)

/-- Removes an empty directory; `words` are said where that fails. -/
def removeFolder (here : Place) (options : Options) (words : Text) (deed : Deed) (path : Text) :
    Bool × Deed :=
  let deed := if options.has 'v' then deed.tell ("rmdir: removing directory, " ++ shown path ++ "\n")
    else deed
  let failed (reason : Text) : Bool × Deed :=
    (false, deed.fail (words ++ " " ++ shown path ++ ": " ++ reason))
  match look deed.disk false here path with
  | .error reason => failed reason.words
  | .ok (place, .directory _) =>
    if lastName path = ['.'] then failed "Invalid argument"
    else if !(deed.disk.children place).isEmpty || place.isEmpty || lastName path = "..".toList then
      if options.has 'i' then (false, deed) else failed Disk.Reason.notEmpty.words
    else (true, deed.on (deed.disk.erase place))
  | .ok _ => failed Disk.Reason.notDirectory.words

/-- Removes empty directories, and those on the way to them if asked to. -/
def removesFolders (here : Place) (options : Options) (deed : Deed) (operands : List Text) :
    Except Misuse Deed :=
  if operands.isEmpty then .error (.fewOperands none)
  else .ok (operands.foldl (fun deed path =>
    let (gone, deed) := removeFolder here options "failed to remove" deed path
    if gone && options.has 'p' then
      let names := (path.splitOn '/').filter (· ≠ [])
      let start : Text := if Text.startsWith "/" path then ['/'] else []
      let ways := (List.range (names.length - 1)).map fun k =>
        start ++ Text.join "/" (names.take (k + 1))
      (ways.reverse.foldl (fun (goes, deed) way =>
        if goes then removeFolder here options "failed to remove directory" deed way
        else (goes, deed)) (true, deed)).2
    else deed) deed)

end Agenda.Shell.FileTool
