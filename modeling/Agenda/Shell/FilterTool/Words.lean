import Agenda.Disk.Path
import Agenda.Shell.Calculation
import Agenda.Shell.Filter.Sequence
import Agenda.Shell.Filter.Split
import Agenda.Shell.FilterTool.Basic

/-!
# Tools for words

The tools that print something about their operands: numbers in sequence or in factors, parts of
paths, what an expression is worth, and the name of a new file.
-/

namespace Agenda.Shell

namespace Session

/-- Makes a file or a directory with a name that no other one has, and tells that name. -/
def makesUnique (session : Session) (options : Options) (operands : List Text) : Session :=
  let pattern := operands.headD "tmp.XXXXXXXXXX".toList
  let start := if operands.isEmpty ∨ options.has 't' ∨ options.has 'p' then
      (options.value? 'p').getD "/tmp".toList ++ ['/']
    else []
  let front := (pattern.reverse.dropWhile (· = 'X')).reverse
  let count := pattern.length - front.length
  let letters : Text := "abcdefghijklmnopqrstuvwxyz"
  let name := start ++ front ++
    Filter.PartNames.written letters count (141167095653 + 11 * session.outputCount)
  let session := { session with
    outputCount := session.outputCount + 1
    disk := if session.disk.isDirectory ["tmp"] then session.disk
      else session.disk.put ["tmp"] .commonDirectory }
  if count < 3 then
    session.fails ("mktemp: too few X's in template ‘" ++ pattern ++ "’") 1
  else
    let made := if options.has 'd' then
        match session.disk.makeDirectory session.here name with
        | .ok disk => { session with disk }.ended 0
        | .error refusal => session.fails ("mktemp: failed to create directory via template ‘" ++
          pattern ++ "’: " ++ refusal.reason.words) 1
      else
        match session.disk.findWritable session.here name with
        | .ok place => { session with disk := session.disk.store place .empty }.ended 0
        | .error reason => session.fails ("mktemp: failed to create file via template ‘" ++
          pattern ++ "’: " ++ reason.words) 1
    if made.status = 0 then made.utters (raw (name ++ ['\n'])) else made

end Session

namespace FilterTool

open Agenda.Shell.Filter

def withoutEnding (ending name : Text) : Text :=
  if Text.endsWith ending name && name != ending then name.take (name.length - ending.length)
  else name

/-- A name without a path before it and an ending behind it. -/
def baseName (ending path : Text) : Text :=
  let name := (Disk.Path.ofText path).name
  let name := if name.isEmpty then (if Text.startsWith "/" path then ['/'] else path) else name
  withoutEnding ending name

def lastNames : FilterTool where
  known := { plain := "az", valued := "s", leading := true, words := [("suffix", 's'),
    ("multiple", 'a'), ("zero", 'z')] }
  run := fun session options operands => do
    let several := options.has 'a' || options.has 's'
    let operands ← someOf operands
    match operands.drop 2 with
    | extra :: _ => if !several then throw (Misuse.excessOperand extra)
    | [] => pure ()
    let ending := if several then (options.value? 's').getD [] else operands.getD 1 []
    let paths := if several then operands else operands.take 1
    return session.utters (printedAt (lineMark options)
      (paths.map fun path => raw (baseName ending path)))

/-- Prints paths without their last names. -/
def parents : FilterTool where
  known := { plain := "z", leading := true, words := [("zero", 'z')] }
  run := fun session options operands => do
    return session.utters (printedAt (lineMark options)
      ((← someOf operands).map fun path => raw (Disk.Path.ofText path).parent.text))

def sequence : FilterTool where
  known := { plain := "w", valued := "sf", leading := true, negative := true, words := [
    ("separator", 's'), ("equal-width", 'w'), ("format", 'f')] }
  run := fun session options operands => do
    let operands ← someOf operands
    match operands.drop 3 with
    | extra :: _ => throw (Misuse.excessOperand extra)
    | [] =>
      let form ← SequenceForm.ofOptions options
      return session.utters (← form.of Session.endlessSize operands)

def factors : FilterTool where
  known := {}
  run := fun session _ operands => do
    let (session, words) : Session × List Text :=
      if operands.isEmpty then
        let (session, t, _) := session.source "factor" []
        (session, (t.splitBy fun a b => isGap a == isGap b).filter fun word => !word.all isGap)
      else (session, operands)
    return words.foldl (fun session word =>
      match factorable? word with
      | some n => session.print 1 (factored n ++ ['\n'])
      | none => session.fails ("factor: " ++ Misuse.marked word ++
          " is not a valid positive integer") 1) (session.ended 0)

/-- Prints a line again and again. -/
def endlessly : FilterTool where
  known := { leading := true }
  run := fun session _ operands => do
    let line := raw (if operands.isEmpty then ['y'] else Text.join " " operands) ++ ['\n']
    return session.utters
      ((List.replicate (Session.endlessSize / line.length) line).flatten)

def worth : FilterTool where
  known := { leading := true, negative := true }
  run := fun session _ operands => do
    match Calculation.result operands with
    | .ok value =>
      return (session.print 1 (raw value ++ ['\n'])).ended
        (if Calculation.isNothing value then 1 else 0)
    | .error .nothing => throw (Misuse.fewOperands none)
    | .error fault => throw (Misuse.other [fault.words] false)

/-- Makes a new file and prints its name. -/
def newName : FilterTool where
  known := { plain := "dutq", valued := "p", words := [("directory", 'd'), ("dry-run", 'u'),
    ("quiet", 'q'), ("tmpdir", 'p')] }
  run := fun session options operands => do
    if 1 < operands.length then refuseWithHint "too many templates"
    return session.makesUnique options operands

def words : List (Text × FilterTool) := [("seq", sequence), ("basename", lastNames),
  ("dirname", parents), ("factor", factors), ("yes", endlessly), ("expr", worth),
  ("mktemp", newName)]

end FilterTool

end Agenda.Shell
