import Agenda.Shell.Records.Run
import Agenda.Shell.Program

/-!
# Record scripts as a tool

What `awk` is asked for: a script, which is an operand or in a file, variables with values, and
files to be read.
-/

namespace Agenda.Shell.Records

/-- What `awk` is asked for. -/
structure Request where
  script : Script
  globals : List (Text × Value)
  lists : List (Text × List Element)
  sources : List Text

/-- What is asked for by some arguments; `read` gives the text of a file. -/
def request? (read : Text → Option Text) (environment : List (Text × Text))
    (arguments : List Text) : Option Request := do
  let known : Known := { valued := "Fvf", leading := true }
  let (options, operands) ← known.split? arguments
  let (script, operands) ← match options.values 'f' with
    | [] => operands.head?.map fun script => (raw script, operands.tail)
    | paths => (paths.mapM read).map fun scripts => (Text.unlines scripts, operands)
  let plain (value : Text) : Value := .given (quotedAt 0 (raw value ++ ['\x22'])).1
  let given := (options.values 'v').filterMap fun operand =>
    (State.assignment? operand).map fun (name, value) => (name, plain value)
  let separator := (options.value? 'F').map fun value => (("FS" : Text), plain value)
  let hasFiles := operands.any fun operand => (State.assignment? operand).isNone
  let words := ("mawk" : Text) :: operands
  let wordList := words.zipIdx.map fun (word, n) =>
    (⟨Text.ofNat n, true, .given (raw word)⟩ : Element)
  let environmentList := environment.map fun (name, value) =>
    (⟨name, false, .given (raw value)⟩ : Element)
  let count : Text × Value := ("ARGC", .ofNat words.length)
  return {
    script := ← read? script
    globals := separator.toList ++ given ++ [count]
    lists := [("ARGV", wordList), ("ENVIRON", environmentList)]
    sources := if hasFiles then operands else operands ++ [['-']] }

end Agenda.Shell.Records

namespace Agenda.Shell.Session

def meant (t : Text) : Text := (Text.ofBytes? (bytesOf t)).getD t

def rawAt? (session : Session) (path : Text) : Option Text :=
  if path = ['-'] ∨ path = "/dev/stdin".toList then some (rawOf session.input)
  else (session.disk.read session.here (meant path)).toOption.map rawOf

/-- Prints what a record script has printed to a file. Where nothing was printed to it before, the
file starts anew. -/
def printToFile (session : Session) (append : Bool) (path t : Text) : Session :=
  match session.leadToFile? 9 (meant path) append with
  | some led => { led.print 9 t with channels := session.channels }
  | none => session.fails ("mawk: cannot open " ++ path ++ " for output") 2

end Agenda.Shell.Session

namespace Agenda.Shell.Records

def runTool (runScript : Session.ShellCall → Session → Course × Session) (fuel : Nat)
    (arguments : List Text) (session : Session) : Session :=
  let called (session : Session) (input : Option Text) (script : Text) : Session × Nat :=
    let (_, after) := runScript
      { script := Session.meant script, name := "sh", arguments := [] }
      { session with
        input := (input.map bytesOf).getD session.input
        fromFile := input.isNone && session.fromFile }
    let status := match after.fallen with
      | some signal => 256 + signal
      | none => after.status
    ({ after with
      input := if input.isSome then session.input else after.input
      fromFile := session.fromFile, fallen := none }, status)
  let world : World Session := {
    read := Session.rawAt?
    write := fun session outlet t =>
      match outlet with
      | .output => session.print 1 t
      | .complaints => session.print 2 t
      | .file append path => session.printToFile append path t
      | .command _ => session
    run := called
    answer := fun session script =>
      let (part, index) := session.collect 1
      let (after, status) := called part none script
      ({ after with channels := session.channels }, rawOf (after.collected index), status) }
  match request? session.rawAt? session.environment arguments with
  | none => session.fails "mawk: syntax error" 2
  | some request =>
    let done := runAll ⟨request.script, world⟩ fuel
      (.start session request.globals request.lists request.sources)
    { done.world with input := .empty, fallen := none }.ended done.status

end Agenda.Shell.Records
