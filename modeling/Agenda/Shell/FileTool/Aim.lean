import Agenda.Shell.Deed
import Agenda.Shell.FileTool.Place
import Agenda.Shell.Filter

/-!
# Aims of file tools

Where the operands of a tool go: to a path, or into a directory under their own names. What is in
the way there gives way, is kept under another name, or is left alone, as the options say.
-/

namespace Agenda.Shell.FileTool

/-- Where operands go. -/
inductive Aim
  | path (goal : Text)
  | directory (goal : Text)

/-- The path at which an operand comes to be; two dots stand for the directory itself. -/
def Aim.goalOf (aim : Aim) (source : Text) : Text :=
  match aim with
  | .path goal => goal
  | .directory goal =>
    if lastName source = ['.', '.'] then goal else below goal (lastName source)

def isFolder (disk : Disk) (here : Place) (path : Text) : Bool :=
  (at? disk here path).any (·.2.isDirectory)

/-- Why a path does not lead to a directory. -/
def noFolderReason (disk : Disk) (here : Place) (path : Text) : Disk.Reason :=
  match look disk true here path with
  | .error reason => reason
  | .ok _ => .notDirectory

/-- The sources and the aim among operands. `own` says that a directory at the end of the operands,
and not what a symbolic link leads to, is meant. -/
def aimed (disk : Disk) (here : Place) (options : Options) (own : Bool) (operands : List Text) :
    Except Misuse (List Text × Aim) :=
  let isGoal (path : Text) : Bool :=
    if own then (self? disk here path).any (·.2.isDirectory) else isFolder disk here path
  match options.value? 't', operands with
  | _, [] => Filter.refuseWithHint "missing file operand"
  | some goal, operands =>
    if options.has 'T' then
      Filter.refuse "cannot combine --target-directory (-t) and --no-target-directory (-T)"
    else if isFolder disk here goal then .ok (operands, .directory goal)
    else Filter.refuse ("target directory " ++ shown goal ++ ": " ++
      (noFolderReason disk here goal).words)
  | none, [operand] =>
    Filter.refuseWithHint ("missing destination file operand after " ++ shown operand)
  | none, operands =>
    let goal := operands.getLastD []
    if options.has 'T' then
      match operands with
      | [source, goal] => .ok ([source], .path goal)
      | operands => Filter.refuseWithHint ("extra operand " ++ shown (operands.getD 2 []))
    else if isGoal goal then .ok (operands.dropLast, .directory goal)
    else if operands.length = 2 then .ok (operands.dropLast, .path goal)
    else Filter.refuse ("target " ++ shown goal ++ ": " ++ (noFolderReason disk here goal).words)

/-- The number between the tildes behind a name, if there is one. -/
def keptNumber? (name other : Text) : Option Nat :=
  let tail := other.drop name.length
  if Text.startsWith (name ++ ['.', '~']) other && Text.endsWith "~" tail then
    let digits := (tail.drop 2).dropLast
    if !digits.isEmpty && digits.all Char.isDigit then some (Text.natOfDigits digits) else none
  else none

/-- The path under which a file is kept that gives way, if it is kept. -/
def keptPath? (disk : Disk) (here : Place) (options : Options) (path : Text) : Option Text :=
  let control := (options.value? 'B').getD []
  if !(options.has 'b' || options.has 'B' || options.has 'S') ||
      [("none" : Text), "off"].contains control then none
  else
    let name := lastName path
    let names := match disk.trace false here path with
      | .ok target => disk.children target.place.dropLast
      | .error _ => []
    let last := (names.filterMap (keptNumber? name)).foldl max 0
    if [("numbered" : Text), "t"].contains control ||
        (0 < last && !([("simple" : Text), "never"].contains control)) then
      some (path ++ ".~" ++ Text.ofNat (last + 1) ++ "~")
    else some (path ++ (options.value? 'S').getD ['~'])

/-- What a tool has done that goes through several sources. -/
structure Batch where
  deed : Deed
  made : List Place := []
  sources : List Place := []
  /-- The first directory that was made for a source. -/
  first : Option Place := none
  /-- Whether that directory was met among what is copied. -/
  looped : Bool := false

namespace Batch

/-- Says what is amiss. -/
def fail (batch : Batch) (words : Text) : Batch := { batch with deed := batch.deed.fail words }

/-- Says something that is not amiss. -/
def warn (batch : Batch) (words : Text) : Batch := { batch with deed := batch.deed.warn words }

/-- Works on another disk, on which a place is new. -/
def make (batch : Batch) (place : Place) (disk : Disk) : Batch :=
  { batch with deed := batch.deed.on disk, made := place :: batch.made }

/-- Prints a line if that is asked for. -/
def tell (batch : Batch) (options : Options) (line : Text) : Batch :=
  if options.has 'v' then { batch with deed := batch.deed.tell (line ++ ['\n']) } else batch

/-- Moves what is in the way to the path under which it is kept, and says so in a note; if it is not
kept, there is no note. -/
def keep (batch : Batch) (here : Place) (options : Options) (goal : Text) (place : Place) :
    Batch × Option Text :=
  let disk := batch.deed.disk
  match keptPath? disk here options goal with
  | none => (batch, none)
  | some kept =>
    match disk.trace false here kept with
    | .ok target =>
      ({ batch with deed := batch.deed.on (relocate disk place target.place) }, some (shown kept))
    | .error _ => (batch, none)

/-- Whether what is at a place may give way to something that was written at a moment; the last one
of some letters among the options decides whether that is asked, refused or granted. -/
def mayReplace (batch : Batch) (options : Options) (letters goal : Text) (moment : Int)
    (there : Entry) : Bool × Batch :=
  let control := (options.value? 'U').getD []
  let older := (options.has 'u' || (options.has 'U' && control ≠ "all".toList)) &&
    decide (moment ≤ timeOf there)
  if older || control = "none".toList then (false, batch)
  else match options.lastOf letters with
    | some 'n' => (false, batch)
    | some 'i' =>
      let (yes, deed) := batch.deed.ask ("overwrite " ++ shown goal ++ "? ")
      (yes, { batch with deed := if yes then deed else deed.lose })
    | _ => (true, batch)

end Batch

end Agenda.Shell.FileTool
