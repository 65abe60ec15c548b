import Agenda.Shell.Clock.Format
import Agenda.Shell.FileTool.Place
import Agenda.Shell.Options
import Agenda.Shell.Process

/-!
# Commands called by other commands

The tools whose arguments are themselves a command that they call: with other variables, in another
directory, or with a limit of time. What they are asked for is read from their arguments before
anything is called.
-/

namespace Agenda.Shell

/-- A limit of time for a command, in milliseconds: the signal that ends it then, how much later it
is ended for good, whether the end shows as its own, and whether signals are told of. -/
structure TimeLimit where
  length : Int
  signal : Nat
  patience : Option Int
  preserves : Bool
  shows : Bool

/-- What is asked for around a command: which variables it sees, where it is called, and for how
long. Without a command the tool tells something itself. -/
structure Detour where
  cleared : Bool := false
  removed : List Text := []
  assignments : List (Text × Text) := []
  directory : Option Text := none
  ending : Char := '\n'
  limit : Option TimeLimit := none
  command : List Text

namespace Detour

/-- The variables at the start of some words, and the words behind them. -/
def assignmentsOf : List Text → List (Text × Text) × List Text
  | [] => ([], [])
  | word :: rest =>
    match Text.cutAt? '=' word with
    | some (name, value) =>
      let (found, command) := assignmentsOf rest
      ((name, value) :: found, command)
    | none => ([], word :: rest)

/-- The words of raw text. White space parts them unless it is quoted or has a backslash before it;
`quote` is the quotation mark that is open, and `word` what has been read of a word, backwards. -/
def wordsFrom (quote : Option Char) (word : Option Text) : Text → List Text
  | [] => (word.map List.reverse).toList
  | '\\' :: c :: rest =>
    if quote.isSome then wordsFrom quote (some (c :: '\\' :: word.getD [])) rest
    else wordsFrom none (some (c :: word.getD [])) rest
  | c :: rest =>
    match quote with
    | some mark =>
      if c = mark then wordsFrom none word rest
      else wordsFrom quote (some (c :: word.getD [])) rest
    | none =>
      if c = '\x27' ∨ c = '\x22' then wordsFrom (some c) (some (word.getD [])) rest
      else if isGap c then (word.map List.reverse).toList ++ wordsFrom none none rest
      else wordsFrom none (some (c :: word.getD [])) rest

/-- A wrong call that is told of in one line. -/
def wrong (words : Text) (hints : Bool) : Except Misuse Detour := .error (.other [words] hints)

/-- What `env` is asked for. -/
def environment (arguments : List Text) : Except Misuse Detour := do
  let known : Known := { plain := "i0v", valued := "uCS", leading := true, words := [
    ("ignore-environment", 'i'), ("null", '0'), ("unset", 'u'), ("chdir", 'C'),
    ("split-string", 'S'), ("debug", 'v')] }
  let (options, operands) ← known.split arguments
  let (options, operands) ← match options.value? 'S' with
    | some t => do
      let (others, operands) ← known.split (wordsFrom none none t ++ operands)
      pure (options ++ others, operands)
    | none => pure (options, operands)
  let dashed : Bool := operands.head? = some ['-']
  let (assignments, command) := assignmentsOf (if dashed then operands.tail else operands)
  let detour : Detour := {
    cleared := dashed || options.has 'i'
    removed := options.values 'u'
    assignments
    directory := options.value? 'C'
    ending := if options.has '0' then '\x00' else '\n'
    command }
  match detour.removed.find? fun name => name.isEmpty || name.contains '=' with
  | some name => wrong ("cannot unset " ++ Misuse.marked name ++ ": Invalid argument") false
  | none =>
    if options.has '0' ∧ !command.isEmpty then
      wrong "cannot specify --null (-0) with command" true
    else if detour.directory.isSome ∧ command.isEmpty then
      wrong "must specify command with --chdir (-C)" true
    else .ok detour

/-- What `timeout` is asked for. -/
def limited (arguments : List Text) : Except Misuse Detour := do
  let known : Known := { plain := "vpf", valued := "ks", leading := true, words := [
    ("kill-after", 'k'), ("signal", 's'), ("verbose", 'v'), ("preserve-status", 'p'),
    ("foreground", 'f')] }
  let (options, operands) ← known.split arguments
  let length (t : Text) : Except Misuse Int :=
    match Clock.length? t with
    | some length => .ok length
    | none => .error (.other ["invalid time interval " ++ Misuse.marked t] true)
  let patience ← match options.value? 'k' with
    | some t => (length t).map some
    | none => pure none
  let signal ← match options.value? 's' with
    | none => pure 15
    | some word =>
      match Signal.number? true word with
      | some signal => pure signal
      | none => .error (.other [Misuse.marked word ++ ": invalid signal"] true)
  match operands with
  | time :: name :: arguments =>
    let length ← length time
    let limit : TimeLimit := ⟨length, signal, patience, options.has 'p', options.has 'v'⟩
    .ok { limit := if length = 0 then none else some limit, command := name :: arguments }
  | _ => .error (.other [] true)

/-- What `nice` is asked for. -/
def lowered (arguments : List Text) : Except Misuse Detour := do
  let known : Known := { valued := "n", leading := true, numbered := true, words := [
    ("adjustment", 'n')] }
  let (options, command) ← known.split arguments
  match options.value? 'n' with
  | none => .ok { command }
  | some value =>
    match integerAt? value with
    | some (_, []) =>
      if command.isEmpty then wrong "a command must be given with an adjustment" true
      else .ok { command }
    | _ => wrong ("invalid adjustment " ++ Misuse.marked value) false

/-- Whether a word says how much is gathered before it is written. -/
def isBuffering (word : Text) : Bool :=
  let digits := word.takeWhile Char.isDigit
  let units : List Text := ["", "K", "KB", "kB", "k", "M", "MB", "G", "GB"]
  word = ['L'] || (!digits.isEmpty && units.contains (word.drop digits.length))

/-- What `stdbuf` is asked for. -/
def buffered (arguments : List Text) : Except Misuse Detour := do
  let known : Known := { valued := "ioe", leading := true, words := [("input", 'i'),
    ("output", 'o'), ("error", 'e')] }
  let (options, command) ← known.split arguments
  match options.find? fun (letter, word) =>
      !isBuffering word || (letter == 'i' && word == ['L']) with
  | some (_, ['L']) => wrong "line buffering stdin is meaningless" true
  | some (_, word) => wrong ("invalid mode " ++ Misuse.marked word) false
  | none =>
    if command.isEmpty then .error (.fewOperands none)
    else if options.isEmpty then wrong "you must specify a buffering mode option" true
    else .ok { command }

/-- What `nohup` is asked for. -/
def kept (arguments : List Text) : Except Misuse Detour := do
  let (_, command) ← { leading := true : Known }.split arguments
  if command.isEmpty then .error (.fewOperands none) else .ok { command }

/-- What `setsid` is asked for. -/
def separate (arguments : List Text) : Except Misuse Detour := do
  let (_, command) ← { plain := "cfw", leading := true, words := [("ctty", 'c'), ("fork", 'f'),
    ("wait", 'w')] : Known }.split arguments
  if command.isEmpty then wrong "no command specified" true else .ok { command }

/-- The tools by their names, each with what reads its arguments. -/
def tools : List (Text × (List Text → Except Misuse Detour)) := [("env", environment),
  ("timeout", limited), ("nice", lowered), ("stdbuf", buffered), ("nohup", kept),
  ("setsid", separate)]

/-- How a tool ends that was called the wrong way. -/
def misuseStatus (tool : Text) : Nat := if tool = "setsid".toList then 1 else 125

/-- The lines in which a tool says that it cannot call a command. -/
def complaints (tool command : Text) (reason : Text) : List Text :=
  let start : Text := tool ++ ": "
  if tool = "env".toList ∧ command.contains ' ' then
    [start ++ Misuse.marked command ++ ": " ++ reason,
      start ++ "use -[v]S to pass options in shebang lines"]
  else if [("timeout" : Text), "stdbuf"].contains tool then
    [start ++ "failed to run command " ++ Misuse.marked command ++ ": " ++ reason]
  else if tool = "nohup".toList then
    [start ++ "failed to run command " ++ FileTool.shown command ++ ": " ++ reason]
  else if tool = "setsid".toList then
    [start ++ "failed to execute " ++ command ++ ": " ++ reason]
  else if tool = "xargs".toList then [start ++ command ++ ": " ++ reason]
  else [start ++ Misuse.marked command ++ ": " ++ reason]

end Detour

end Agenda.Shell
