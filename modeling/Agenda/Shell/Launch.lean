import Agenda.Shell.Run
import Agenda.Typeset.Basic

/-!
# Launching commands

How a command with its arguments is run on a disk: a script, a program that is one, or one of the
tools. A command that cannot be found or that is no program is refused before anything is run.
-/

namespace Agenda.Shell

/-- How deep the commands of a script may call others, loops included. -/
def depth : Nat := 1000000

/-- What is left of a session, with the code that it ended with. -/
def finished (ended : Course × Session) : Finished :=
  let (course, session) := ended
  let code : Int := match course with
    | .killed signal => -signal
    | _ => session.status % 256
  ⟨code, session.collected 0, session.collected 1, session.disk⟩

/-- Ends a process. The commands that it has sent to the background go on until they are done. -/
def outlived (ended : Course × Session) : Course × Session :=
  let (course, session) := ended
  (course, ((runner depth).runJobs depth 0 none session).ended session.status)

def runWhole (shellCall : Session.ShellCall) (session : Session) : Course × Session :=
  outlived ((runner depth).runToEnd shellCall.script (session.forCall shellCall))

def runShell (shell : Text) (arguments : List Text) (session : Session) : Course × Session :=
  match session.shellCall shell arguments with
  | .error words => (.goesOn, session.fails (shell ++ ": 0: " ++ words) 2)
  | .ok shellCall => runWhole shellCall session

def runProgram (program : Program) (name : Text) (arguments : List Text) (session : Session) :
    Course × Session :=
  match program with
  | .script file path => runWhole (.ofFile file path arguments) session
  | .tool tool =>
    if shells.contains tool then runShell tool arguments session
    else outlived (execute depth program name arguments session)

/-- Runs commands, with programs looked for in some directories before those of the system. -/
def launcher (search : List Place) : Launcher := fun disk here command =>
  let session := Session.start disk here search "sh" []
  let name := command.headD []
  match session.program session.searched name with
  | .ok program => .ok (finished (runProgram program name command.tail session))
  | .error .isDirectory => .error .denied
  | .error reason => .error reason

end Agenda.Shell
