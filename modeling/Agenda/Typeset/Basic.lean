import Agenda.Text.Digit
import Agenda.Text.WideLine
import Agenda.World

/-!
# Typesetting

A rendering that is a source is typeset by an external tool: the source is written to a file, the
tool is run in the directory of that file, and the file that it leaves there is the result. The file
is either at a path of the user's choice, or in a scratch directory that is made for the purpose. In
the end the scratch directory, or every auxiliary file beside the source, is removed again, whatever
happened; a user may ask for them to be kept.
-/

namespace Agenda

/-- What is left of a command that has ended. -/
structure Finished where
  /-- The exit code; below zero, the negated number of the signal that ended it. -/
  code : Int
  stdout : ByteArray
  stderr : ByteArray
  disk : Disk

/-- How commands are run: on a disk, in a directory, a command with its arguments. -/
abbrev Launcher := Disk → Place → List Text → Except Disk.Reason Finished

namespace Typeset

/-- What typesetting needs besides the world: a way to run commands, and the path of a scratch
directory that does not exist yet. -/
structure Workshop where
  launch : Launcher
  scratch : Disk.Path

structure Options where
  /-- The path of the source; without one it is put into a scratch directory. -/
  source : Option Text := none
  /-- Whether auxiliary files are kept. -/
  keep : Bool := false
  command : Text := "latexmk"
  arguments : List Text := ["-pdflua"]

def scratchName : Text := "timetable.tex"

/-- The path of the source that a user chose; an empty path is no choice. -/
def Options.chosen? (options : Options) : Option Disk.Path :=
  match options.source with
  | none | some [] => none
  | some path => some (.ofText path)

def sourcePath (shop : Workshop) (options : Options) : Disk.Path :=
  options.chosen?.getD (shop.scratch.child scratchName)

/-- The last lines that a tool printed; there are at most ten. -/
def lastLines (printed : Text) : Text :=
  let lines := Text.wideLines printed
  Text.unlines (lines.drop (lines.length - 10))

def printedText (bytes : ByteArray) : World.Act Text :=
  match Text.ofFile? bytes with
  | none => throw .undecodable
  | some text => return text

/-- The place that a path leads to from the directory of a run, if it can be followed. -/
def placeOf? (world : World) (path : Disk.Path) : Option Place :=
  (world.disk.follow world.here path.text).toOption.map (·.place)

/-- The command that runs the tool on the source at a path. -/
def Options.commandFor (options : Options) (source : Disk.Path) : List Text :=
  options.command :: options.arguments ++ [source.name]

/-- Starts the tool on the source at a path, in the directory of that path. -/
def start (shop : Workshop) (options : Options) (source : Disk.Path) (world : World) :
    Except Disk.Reason Finished := do
  let directory ← world.disk.follow world.here source.parent.text
  shop.launch world.disk directory.place (options.commandFor source)

def runTool (shop : Workshop) (options : Options) (source : Disk.Path) : World.Act Unit := do
  let command := options.commandFor source
  World.note .debug ("Pokrecem: " ++ Text.join " " command)
  command.forM World.checkZero
  let world ← get
  match start shop options source world with
  | .error .missing => throw (.fault (.missingTool options.command))
  | .error reason => throw (.refused ⟨reason, options.command⟩)
  | .ok finished =>
    set { world with disk := finished.disk }
    let printed ← printedText finished.stdout
    let _ ← printedText finished.stderr
    if finished.code ≠ 0 then
      throw (.fault (.toolFailed options.command finished.code (lastLines printed)))

/-- Reads the output that the tool left beside the source. -/
def readOutput (source : Disk.Path) : World.Act ByteArray := do
  let path := (source.withSuffix ".pdf").text
  let world ← get
  match world.disk.read world.here path with
  | .error refusal => throw (.fault (.missingOutput path refusal))
  | .ok bytes => return bytes

/-- Writes the source, runs the tool and reads its output. -/
def produce (shop : Workshop) (options : Options) (source : Disk.Path) (latex : Text) :
    World.Act ByteArray := do
  World.writeFile source.text (Text.toBytes latex) fun refusal =>
    .fault (.unwritableSource source.text refusal)
  runTool shop options source
  readOutput source

/-- The note that a file cannot be removed. -/
def unremovedNote (path : Text) (refusal : Disk.Refusal) : Note :=
  ⟨.warning, "Upozorenje: ne mogu obrisati privremeni fajl '" ++ path ++ "': " ++ refusal.message⟩

/-- Removes what has a name in the directory of a source, if it is a file. That it cannot be removed
is noted; that it cannot be looked at is no matter for a note. -/
def removeBeside (source : Disk.Path) (name : Text) : World.Act Unit := do
  let path := (source.parent.child name).text
  let world ← get
  match world.disk.finds Entry.isFile world.here path with
  | .error reason => throw (.refused ⟨reason, path⟩)
  | .ok false => return
  | .ok true =>
    match world.disk.unlink world.here path with
    | .error refusal => modify (Journal.note (unremovedNote path refusal))
    | .ok disk => set { world with disk }

/-- The names in the directory of a source, if there is such a directory. A directory whose names
may not be read is as good as none. -/
def namesBeside (source : Disk.Path) (world : World) : Except Disk.Reason (List Text) :=
  let path := source.parent.text
  if path.contains '\x00' then .ok []
  else
    match world.disk.finds Entry.isDirectory world.here path with
    | .error reason => .error reason
    | .ok false => .ok []
    | .ok true =>
      match world.disk.names world.here path with
      | .error reason => if reason.isForbidden then .ok [] else .error reason
      | .ok names => .ok names

/-- Removes the auxiliary files beside a source: the files whose names start with the stem of the
source, read as a pattern, and a dot. The names are read first, and then taken one after the other.
-/
def sweepBeside (source : Disk.Path) : World.Act Unit :=
  match Disk.Glob.parse? (source.stem ++ ".*") with
  | none => throw .badPattern
  | some pattern => do
    match namesBeside source (← get) with
    | .error reason => throw (.refused ⟨reason, source.parent.text⟩)
    | .ok names => (names.filter (Disk.Glob.accepts pattern)).forM (removeBeside source)

/-- Removes a scratch directory with all that is in it. -/
def removeScratch (shop : Workshop) (world : World) : World :=
  match placeOf? world shop.scratch with
  | none => world
  | some place => { world with disk := world.disk.eraseTree place }

/-- What is done in the end: the auxiliary files are removed, or there is a note that they were
kept. -/
def finish (shop : Workshop) (options : Options) : World.Act Unit :=
  if options.keep then
    World.note .info ("Pomocni fajlovi sacuvani u: " ++
      (sourcePath shop options).parent.text ++ "/")
  else match options.chosen? with
    | some source => sweepBeside source
    | none => modify (removeScratch shop)

/-- Makes the scratch directory if the source is to be put there. -/
def prepare (shop : Workshop) (options : Options) : World.Act Unit := do
  if options.chosen?.isNone then
    let world ← get
    match world.disk.makeDirectory world.here shop.scratch.text with
    | .error refusal => throw (.refused refusal)
    | .ok disk => set { world with disk }

/-- Does something and then, however that has ended, something else. What stops the latter counts
before what has stopped the former. -/
def andFinally {α : Type} (action : World.Act α) (last : World.Act Unit) : World.Act α :=
  fun world =>
    let (result, world) := action world
    match last world with
    | (.ok (), world) => (result, world)
    | (.error trouble, world) => (.error trouble, world)

def typeset (shop : Workshop) (options : Options) (latex : Text) : World.Act ByteArray := do
  prepare shop options
  andFinally (produce shop options (sourcePath shop options) latex) (finish shop options)

def stage (shop : Workshop) : Stage World Trouble Options Text ByteArray where
  name := "LatexmkStage"
  declares := Trouble.isIn .typesetting
  defaults := {}
  apply := typeset shop

/-- Where the last thing to do is not stopped, it leaves the result alone. -/
theorem andFinally_apply {α : Type} {action : World.Act α} {last : World.Act Unit}
    {world after : World} (h : last (action world).2 = (.ok (), after)) :
    andFinally action last world = ((action world).1, after) := by
  unfold andFinally
  split
  rename_i result next heq
  rw [heq] at h ⊢
  simp only [h]

end Typeset

end Agenda
