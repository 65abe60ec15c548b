import Agenda.Disk.Basic
import Agenda.Disk.Path
import Agenda.Journal
import Agenda.Pipeline.Stage

/-!
# The world of a run

What a run of the program can read and change: a disk with the directory that it runs in, the
standard streams, and where its notes go. Notes below a threshold are dropped; the others are
printed to the standard error stream and, with a time stamp, to the end of a log file if there is
one. The two streams that are written to are taken to be open and to take all that is written.
-/

namespace Agenda

/-- What there is to be read from the standard input. Text is Unicode text here: a stream that
passes bytes on as halves of characters is not described. -/
inductive Stdin
  | text (t : Text)
  /-- The bytes are no text. -/
  | undecodable
  | refused (refusal : Disk.Refusal)
  /-- There is no standard input. -/
  | closed

/-- An open standard input with some bytes in UTF-8. -/
def Stdin.ofBytes (bytes : ByteArray) : Stdin :=
  match Text.ofFile? bytes with
  | some t => text t
  | none => undecodable

/-- A log file that has been opened: where it is, what the clock shows for its lines one after the
other, and how many have been written. -/
structure LogFile where
  place : Place
  clock : Nat → Text
  count : Nat := 0

/-- All that a run can read and change. -/
structure World where
  disk : Disk
  /-- The directory that relative paths start from. -/
  here : Place
  stdin : Stdin
  stdout : ByteArray
  stderr : Text
  /-- The least level of the notes that are kept. -/
  threshold : Level
  log : Option LogFile

namespace World

/-- A world with a disk in which nothing has been printed. -/
def ofDisk (disk : Disk) (here : Place) : World :=
  ⟨disk, here, .text [], .empty, [], .info, none⟩

def printError (text : Text) (world : World) : World :=
  { world with stderr := world.stderr ++ text }

/-- Prints to the standard output stream. -/
def print (bytes : ByteArray) (world : World) : World :=
  { world with stdout := world.stdout ++ bytes }

def logLine (log : LogFile) (note : Note) : Text :=
  log.clock log.count ++ "[" ++ note.level.name ++ "] " ++ note.text ++ "\n"

/-- The first line of the complaint about a line that cannot be written to the log file. Behind it
stands where in the program that has happened. -/
def logComplaint : Text := "--- Logging error ---\n"

/-- Adds a note to the log file, if there is one. A log file that has been removed since it was
opened does not come back. If there is no room for the line, there is a complaint, and the run goes
on.
-/
def addToLog (note : Note) (world : World) : World :=
  match world.log with
  | none => world
  | some log =>
    let ticked := { world with log := some { log with count := log.count + 1 } }
    match world.disk.get? log.place with
    | some (.file file) =>
      match world.disk.fill log.place file.contents (Text.toBytes (logLine log note)) with
      | (none, disk) => { ticked with disk }
      | (some _, disk) => { ticked with disk }.printError logComplaint
    | _ => ticked

def write (note : Note) (world : World) : World :=
  if world.threshold.rank ≤ note.level.rank then
    (world.printError (note.text ++ "\n")).addToLog note
  else world

instance : Journal World := ⟨write⟩

/-- An action on the world that may be stopped by a trouble. -/
abbrev Act := Action World Trouble

def note (level : Level) (text : Text) : Act Unit := modify (Journal.note ⟨level, text⟩)

/-- The value that a rule gives, or a stop with the fault that it finds. -/
def orFault {α : Type} : Except Fault α → Act α
  | .ok value => return value
  | .error fault => throw (.fault fault)

/-- The value that was found, or a stop with the trouble that was found instead. -/
def orTrouble {α : Type} : Except Trouble α → Act α
  | .ok value => return value
  | .error trouble => throw trouble

/-- Stops if a text that is handed to the system holds the character zero. -/
def checkZero (text : Text) : Act Unit := if text.contains '\x00' then throw .zeroInside else return

/-- The text of the file at the end of a path; a refusal is handed to `refuse`. -/
def readText (path : Text) (refuse : Disk.Refusal → Trouble) : Act Text := do
  checkZero path
  let world ← get
  match world.disk.read world.here path with
  | .error refusal => throw (refuse refusal)
  | .ok bytes =>
    match Text.ofFile? bytes with
    | none => throw .undecodable
    | some text => return text

/-- Writes bytes to the file at the end of a path; a refusal is handed to `refuse`, and what has
been written then stays. -/
def writeFile (path : Text) (bytes : ByteArray) (refuse : Disk.Refusal → Trouble) : Act Unit := do
  checkZero path
  let world ← get
  let (refused, disk) := world.disk.write world.here path bytes
  set { world with disk }
  match refused with
  | none => return
  | some refusal => throw (refuse refusal)

end World

end Agenda
