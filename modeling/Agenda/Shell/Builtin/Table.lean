import Agenda.Shell.Builtin
import Agenda.Shell.Builtin.Surroundings
import Agenda.Shell.Printf

/-!
# Commands of the shell by name

The commands of the shell itself that do all of their work alone, by their names; and the names of
those that run other commands.
-/

namespace Agenda.Shell

namespace Session

def heard (session : Session) (name : Text) : Remark → Session
  | .prints t => session.print 1 t
  | .mutters t => session.print 2 t
  | .complains words => session.complains (name ++ ": " ++ words)
  | .asks words => session.print 2 (raw (name ++ ": " ++ words))

/-- Prints arguments by a format, or gives what would be printed to a variable. -/
def printsFormatted (session : Session) (holder? : Option Text) (format : Text)
    (arguments : List Text) : Session :=
  let printer : Printer := if session.large then .large else .script
  let (remarks, status) := printer.run format arguments
  let name := session.title ++ ": printf"
  match holder? with
  | none =>
    (remarks.foldl (fun session remark => session.heard name remark) session).ended status
  | some holder =>
    let complaints := remarks.filter (!Printer.isPrint ·)
    let session := complaints.foldl (fun session remark => session.heard name remark) session
    (session.assign holder (Printer.textOf (Printer.printedText remarks))).ended status

/-- What `printf` does. -/
def printsBy (session : Session) (arguments : List Text) : Session :=
  let usage : Text := "printf: usage: printf [-v var] format [arguments]"
  let known : Known := { valued := if session.large then ['v'] else [], leading := true }
  match known.split arguments, session.large with
  | .ok (options, format :: arguments), _ =>
    session.printsFormatted (options.value? 'v') format arguments
  | .ok (_, []), true => session.fails usage 2
  | .ok (_, []), false => session.failsAs "printf: usage: printf format [arg ...]" 2
  | .error (.unknownLetter letter), true =>
    (session.failsAs ("printf: -" ++ letter :: ": invalid option".toList) 2).fails usage 2
  | .error _, true =>
    (session.failsAs "printf: -v: option requires an argument" 2).fails usage 2
  | .error (.unknownLetter letter), false =>
    session.failsAs ("printf: Illegal option -" ++ [letter]) 2
  | .error _, false => session.failsAs "printf: Illegal option --" 2

/-- The times that a script and its processes have taken. -/
def noTimes : Text :=
  let line : Text := "0m0.000000s 0m0.000000s\n"
  line ++ line

/-- What `getopts` does. -/
def takesOption (session : Session) (arguments : List Text) : Session :=
  match arguments with
  | [letters, name] => session.nextOption letters name session.arguments
  | letters :: name :: words => session.nextOption letters name words
  | _ => session.failsAs "getopts: Usage: getopts optstring var [arg...]" 2

end Session

/-- A command of the shell: what it does with its arguments, and how the script goes on. -/
abbrev Builtin := Session → List Text → Course × Session

namespace Builtin

/-- A command behind which the script goes on. -/
def plain (act : Session → List Text → Session) : Builtin := fun session arguments =>
  (.goesOn, act session arguments)

/-- A command that does nothing here and ends with a status. -/
def idle (status : Nat) : Builtin := plain fun session _ => session.ended status

/-- The commands that print, read and answer. -/
def speaking : List (Text × Builtin) := [
  ("echo", plain fun session arguments =>
    session.utters (if session.large then echoBy .large arguments else echo arguments)),
  ("printf", plain Session.printsBy), ("read", plain Session.readLine),
  ("test", plain fun session => session.answers "test"),
  ("[", plain Session.answersInBrackets),
  ("pwd", plain Session.tellsDirectory),
  ("times", plain fun session _ => session.utters Session.noTimes)]

/-- The commands that change the state of a script. -/
def changing : List (Text × Builtin) := [
  (":", idle 0), ("true", idle 0), ("false", idle 1), ("ulimit", plain Session.setsLimits),
  ("cd", plain (Session.changesDirectory "cd")),
  ("set", Session.setOptions), ("shift", Session.shift), ("local", Session.makeOwn),
  ("export", Session.exports), ("readonly", Session.makeConstant), ("unset", Session.forget),
  ("getopts", plain Session.takesOption), ("umask", plain Session.setMask),
  ("alias", plain Session.setAliases), ("unalias", plain Session.forgetAliases)]

/-- The commands that decide how a script goes on, and those about processes. -/
def leading : List (Text × Builtin) := [
  ("exit", fun session => session.leave .exits), ("return", fun session => session.leave .returns),
  ("break", fun session => session.leaveLoops "break" .breaks),
  ("continue", fun session => session.leaveLoops "continue" .continues),
  ("trap", plain Session.setTraps), ("wait", plain Session.waited), ("kill", Session.kill),
  ("jobs", plain fun session _ => session.listsJobs),
  ("fg", plain fun session _ => session.failsAs "fg: No current job" 2),
  ("bg", plain fun session _ => session.failsAs "bg: No current job" 2)]

/-- The commands that only the larger language has. -/
def larger : List (Text × Builtin) := [
  ("declare", fun session => session.declareAs "declare"),
  ("typeset", fun session => session.declareAs "typeset"),
  ("mapfile", plain Session.readLines), ("readarray", plain Session.readLines),
  ("shopt", idle 0)]

/-- The commands that only the smaller language has. -/
def smaller : List (Text × Builtin) := [("chdir", plain (Session.changesDirectory "chdir"))]

/-- The commands that do all of their work alone. -/
def all : List (Text × Builtin) := speaking ++ changing ++ leading

def find? (large : Bool) (name : Text) : Option Builtin :=
  (all.lookup name).or ((if large then larger else smaller).lookup name)

/-- The commands that run others, or find them. -/
def runners : List Text := [".", "command", "eval", "exec", "hash", "type"]

/-- The commands that run others and that only the larger language has. -/
def largerRunners : List Text := ["builtin", "let", "source"]

def has (large : Bool) (name : Text) : Bool :=
  (find? large name).isSome || runners.contains name || (large && largerRunners.contains name)

end Builtin

end Agenda.Shell
