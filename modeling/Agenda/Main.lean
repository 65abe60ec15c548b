import Agenda.CommandLine.Run
import Agenda.Language.Registry
import Agenda.Markdown.Basic
import Agenda.Shell.Launch
import Std.Time.Zoned

/-!
# The program

The files that the arguments name are fetched from the machine onto a disk, the run is done on that
disk, and what it printed and changed is brought back. The tool for typesetting is a shell script on
the search path; the scripts of a run see no other files of the machine.
-/

namespace Agenda.Machine

instance : Languages := .registered

instance : Converter := ⟨fun description => .ok (Markdown.html description)⟩

/-- What is shown for help. -/
def usage : Text :=
  "agenda -i ULAZ [-f abstracts|html|tikz] [-o IZLAZ] [--pdf] [-t SABLON] [--skip-invalid]\n" ++
  "       [--html-day-minutes MINUTE] [--save-temps] [-d] [--log-file LOG] [-v] [-h]\n"

def pathOf (place : Place) : String := String.ofList ('/' :: Text.join "/" place)

/-- The place that a path leads to from a directory. -/
def placeOf (here : Place) (path : Text) : Place :=
  let names := path.splitOn '/'
  CommandLine.plainNames (if Text.startsWith "/" path then names else here ++ names)

def fetch (place : Place) : IO (Option Entry) := do
  try
    let contents ← IO.FS.readBinFile (pathOf place)
    return some (.file { contents })
  catch
    | .noFileOrDirectory .. => return none
    | .permissionDenied .. => return some (.file { contents := .empty, readable := false })
    | _ => return some .commonDirectory

/-- The disk with all directories on the way to a place. -/
def withParents (disk : Disk) (place : Place) : IO Disk :=
  (List.range (place.length - 1)).foldlM (fun disk count => do
    let parent := place.take (count + 1)
    match ← fetch parent with
    | none => return disk
    | some (.file { contents, readable := true, .. }) => return disk.put parent (.file { contents })
    | some _ => return disk.put parent .commonDirectory) disk

/-- The disk with what the machine has at a place, and with all directories on the way there. -/
def load (disk : Disk) (place : Place) : IO Disk := do
  let disk ← withParents disk place
  match ← fetch place with
  | none => return disk
  | some entry => return disk.put place entry

/-- The files that a run with some choices may read or write. -/
def named (input : CommandLine.Given Text) (choices : CommandLine.Choices) : List Text :=
  let given := [some input, choices.output, choices.template].filterMap id
  let paths := given.filterMap CommandLine.Given.value? ++ choices.logFile.toList
  paths.filter fun path => path ≠ ['-'] ∧ path ≠ []

/-- What a run with some arguments may read from the machine: files, and whether the standard input.
-/
def needs (arguments : List Text) : List Text × Bool :=
  match CommandLine.Choices.ofArguments .later arguments with
  | .error _ => ([], false)
  | .ok (input, choices) => (named input choices, input = .value ['-'])

/-- The tool for typesetting on the search path, made executable. -/
def loadTool (disk : Disk) (search : List Place) : IO Disk :=
  search.foldlM (fun disk directory => do
    let place := directory ++ ["latexmk".toList]
    match ← fetch place with
    | some (.file file) =>
      return (← withParents disk place).put place (.file { file with executable := true })
    | _ => return disk) disk

/-- The moment at which a run starts, as it stands in a log file. -/
def stamp : IO Text := do
  let now ← Std.Time.PlainDateTime.now
  let parts := [
    Text.padNat 4 now.year.toInt.toNat, "-", Text.padNat 2 now.month.toNat, "-",
    Text.padNat 2 now.day.toNat, " ", Text.padNat 2 now.hour.toNat, ":",
    Text.padNat 2 now.minute.toNat, ":", Text.padNat 2 now.second.toNat, ",",
    Text.padNat 3 (now.nanosecond.toNat / 1000000), " "]
  return parts.flatten

/-- The standard input, if it is needed. -/
def readStdin (needed : Bool) : IO Stdin := do
  if !needed then return .closed
  try
    return .ofBytes (← (← IO.getStdin).readBinToEnd)
  catch _ => return .closed

def scratch : IO Disk.Path := do
  let letters : Text := "abcdefghijklmnopqrstuvwxyz0123456789_"
  let picks ← (List.range 8).mapM fun _ => IO.rand 0 (letters.length - 1)
  return .ofText ("/tmp/agenda-" ++ picks.map fun pick => letters.getD pick '_')

/-- Brings the changes of a disk back to the machine. -/
def bringBack (before after : Disk) : IO Unit := do
  for (place, entry) in after.entries do
    if before.get? place ≠ some entry then
      match entry with
      | .directory _ => IO.FS.createDirAll (pathOf place)
      | .file file => IO.FS.writeBinFile (pathOf place) file.contents
      | .link _ =>
        if let some contents := (after.file? place).map File.contents then
          IO.FS.writeBinFile (pathOf place) contents
  for (place, _) in before.entries do
    if before.isFile place && !after.isFile place then IO.FS.removeFile (pathOf place)

/-- Does a run on the machine and gives its exit code. -/
def run (arguments : List Text) : IO UInt32 := do
  let here := placeOf [] (← IO.currentDir).toString.toList
  let search := (((← IO.getEnv "PATH").getD "").toList.splitOn ':').map (placeOf here)
  let (paths, readsStdin) := needs arguments
  let disk ← withParents (Disk.empty.put ["tmp".toList] .commonDirectory) here
  let disk ← (paths.map (placeOf here)).foldlM load (disk.put here .commonDirectory)
  let disk ← loadTool disk search
  let world := { World.ofDisk disk here with stdin := ← readStdin readsStdin }
  let start ← stamp
  let means : CommandLine.Means := {
    shop := ⟨Shell.launcher search, ← scratch⟩
    clock := fun _ => start
    help := usage
    dialect := .later }
  let (ending, world) := CommandLine.run means arguments world
  bringBack disk world.disk
  (← IO.getStdout).write world.stdout
  IO.eprint (String.ofList world.stderr)
  match ending with
  | .ok (.code code) => return UInt32.ofNat code
  | .ok (.refused .help) =>
    IO.print (String.ofList usage)
    return 0
  | .ok (.refused .wrong) =>
    IO.eprint (String.ofList usage)
    return 2
  | .error trouble =>
    IO.eprintln (String.ofList trouble.message)
    return 1

end Agenda.Machine

def main (arguments : List String) : IO UInt32 :=
  Agenda.Machine.run (arguments.map String.toList)
