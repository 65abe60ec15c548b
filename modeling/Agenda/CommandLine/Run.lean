import Agenda.CommandLine.Choices
import Agenda.CommandLine.Listing
import Agenda.Typeset.Basic

/-!
# Runs of the program

What the program does for a row of arguments: it reads a document, lists it or renders it or both,
may typeset the rendering, and writes the result. Everything that goes wrong with the document, the
template or the tool is reported, and the run ends with code 1.
-/

namespace Agenda.CommandLine

/-- How a run ended: it was not started because of its arguments, or it ended with a code. -/
inductive Ending
  | refused (refusal : Refusal)
  | code (code : Nat)
deriving Repr, DecidableEq

/-- What a run needs besides the world. -/
structure Means where
  shop : Typeset.Workshop
  /-- What stands at the start of the lines of a log file, one after the other. -/
  clock : Nat → Text
  help : Text
  dialect : Dialect

def nothingChosen : Text :=
  "Greska: nije specificiran izlazni format. Koristite -f ili -d.\n"

/-- The names of a path with single and double dots resolved by their names alone. -/
def plainNames (names : List Text) : List Text :=
  names.foldl (fun kept name =>
    if name = ['.'] ∨ name = [] then kept
    else if name = ['.', '.'] then kept.dropLast
    else kept ++ [name]) []

def logPath (world : World) (path : Text) : Text :=
  let names := path.splitOn '/'
  let names := if Text.startsWith "/" path then names else world.here ++ names
  '/' :: Text.join "/" (plainNames names)

/-- Opens the log file, if one was chosen; it is made if it is not there. -/
def openLog (means : Means) (choices : Choices) : World.Act Unit :=
  match choices.logFile with
  | none | some [] => return
  | some path => do
    World.checkZero path
    let world ← get
    let path := logPath world path
    match world.disk.findWritable world.here path with
    | .error reason => throw (.refused ⟨reason, path⟩)
    | .ok place =>
      let found := (world.disk.get? place).isSome
      let disk := if found then world.disk else world.disk.store place .empty
      set { world with disk, log := some { place, clock := means.clock } }

/-- Sets up where notes go; an earlier log file is left. -/
def setUp (means : Means) (choices : Choices) : World.Act Unit := do
  let threshold := if choices.verbose then .debug else .info
  modify fun world => { world with threshold, log := none }
  openLog means choices

/-- The value that something was given, which is needed now. -/
def need {α : Type} : Given α → World.Act α
  | .nothing => throw .nothingGiven
  | .value value => return value

/-- Reads the document: a file, or the standard input for a dash. -/
def readInput (input : Text) : World.Act (Except Disk.Refusal Text) := do
  World.checkZero input
  let world ← get
  let found : Stdin :=
    if input = ['-'] then world.stdin
    else match world.disk.read world.here input with
      | .error refusal => .refused refusal
      | .ok bytes => .ofBytes bytes
  match found with
  | .text document => return .ok document
  | .undecodable => throw .undecodable
  | .refused refusal => return .error refusal
  | .closed => throw .noInput

/-- Writes the result to a file, or to the standard output without one, and gives what is refused.
-/
def writeOutput (output : Option Text) (bytes : ByteArray) : World.Act (Option Disk.Refusal) := do
  let world ← get
  match output with
  | none =>
    set (world.print bytes)
    return none
  | some path =>
    World.checkZero path
    let (refused, disk) := world.disk.write world.here path bytes
    set { world with disk }
    return refused

/-- Reports an error; the run ends with code 1. -/
def failWith (words : Text) : World.Act Nat := do
  World.note .error ("Greška: " ++ words)
  return 1

/-- The path for the result; it is empty if none was given. -/
def Choices.outputPath (choices : Choices) : Text := (choices.output.bind Given.value?).getD []

/-- Prints the listing of some events: on the error stream if the standard output is taken. -/
def printListing (choices : Choices) (events : List Event) : World.Act Unit :=
  let taken := choices.format.isSome && choices.outputPath.isEmpty
  if taken then modify (World.printError (listing events))
  else modify (World.print (Text.toBytes (listing events)))

/-- Tells about events that were read, and lists them if that was chosen. -/
def report (choices : Choices) (events : List Event) : World.Act Unit := do
  World.note .info ("Parsirano dogadjaja: " ++ Text.ofNat events.length)
  if choices.dump then printListing choices events

/-- The policy that was chosen for faulty blocks. -/
def Choices.policy (choices : Choices) : Policy := if choices.skipInvalid then .skip else .abort

/-- Typesets a rendering if that was chosen; the result is the bytes to be written. -/
def typesetIfChosen (means : Means) (choices : Choices) (outcome : Outcome Trouble Text) :
    World.Act (Outcome Trouble ByteArray) :=
  if choices.pdf then
    outcome.andThen (Typeset.stage means.shop) (some { keep := choices.keep })
  else match outcome with
    | .success text => return .success (Text.toBytes text)
    | .failure trouble => return .failure trouble

/-- What was chosen for a rendering. A page needs its minutes first, and a template only if they
make a column. -/
def renderOptions (choices : Choices) (format : Format) : World.Act Page.Options := do
  let dayMinutes ← if format = .page then need choices.dayMinutes else pure 480
  if dayMinutes ≤ 0 then return { dayMinutes }
  return ⟨← choices.template.mapM need, dayMinutes⟩

def render [Converter] (choices : Choices) (format : Format) :
    Outcome Trouble Timetable → World.Act (Outcome Trouble Text)
  | .failure trouble => return .failure trouble
  | .success timetable => do
    (renderer format (← renderOptions choices format)).runFrom (.success timetable)

/-- Writes the result to where it is to go, and tells about it. -/
def deliver (choices : Choices) (format : Format) (bytes : ByteArray) : World.Act Nat := do
  match ← writeOutput (← choices.output.mapM need) bytes with
  | some refusal =>
    failWith ("izlaz '" ++ choices.outputPath ++ "' nije moguce zapisati: " ++ refusal.message)
  | none =>
    match choices.outputPath with
    | [] => return 0
    | path =>
      let mark : Text := if choices.pdf then " (PDF)" else []
      World.note .info ("Generisan " ++ format.name ++ mark ++ ": " ++ path)
      return 0

def renderEvents [Converter] (means : Means) (choices : Choices) (format : Format)
    (outcome : Outcome Trouble (List Event)) : World.Act Nat := do
  let timetable ← outcome.andThen Timetable.stage none
  let rendering ← render choices format timetable
  match ← typesetIfChosen means choices rendering with
  | .failure trouble => failWith trouble.toFault.message
  | .success bytes => deliver choices format bytes

def processDocument [Languages] [Converter] (means : Means) (choices : Choices) (document : Text) :
    World.Act Nat := do
  let outcome ← Reader.stage.chain (some choices.policy.name) document
  if let .success events := outcome then report choices events
  match choices.format, outcome with
  | some format, outcome => renderEvents means choices format outcome
  | none, .success _ => return 0
  | none, .failure trouble => failWith trouble.toFault.message

/-- Reads the document, and does with it what was chosen. -/
def process [Languages] [Converter] (means : Means) (input : Given Text) (choices : Choices) :
    World.Act Nat := do
  setUp means choices
  let input ← need input
  match ← readInput input with
  | .error refusal =>
    failWith ("ulazni fajl '" ++ input ++ "' nije moguce procitati: " ++ refusal.message)
  | .ok document => processDocument means choices document

def run [Languages] [Converter] (means : Means) (arguments : List Text) : World.Act Ending := do
  match Choices.ofArguments means.dialect arguments with
  | .error refusal => return .refused refusal
  | .ok (input, choices) =>
    if choices.format.isNone && !choices.dump then
      modify (World.printError (means.help ++ "\n" ++ nothingChosen))
      return .code 1
    else if choices.pdf && !choices.format.any Format.isSource then return .refused .wrong
    else return .code (← process means input choices)

end Agenda.CommandLine
