import Agenda.Shell.Clock.Format
import Agenda.Shell.FilterTool.Basic

/-!
# Tools about the machine

The tools that tell about the machine, about who works at it, and about the time, and the one that
lets time pass.
-/

namespace Agenda.Shell

namespace FilterTool

open Agenda.Shell.Filter

/-- A tool that prints a text and takes no operands. -/
def telling (plain : Text) (words : List (Text × Char)) (text : Options → Text) : FilterTool where
  known := { plain, words }
  run := fun session options operands =>
    match operands with
    | extra :: _ => .error (.excessOperand extra)
    | [] => .ok (session.utters (text options ++ ['\n']))

/-- The parts of the name of the machine that are asked for. -/
def machineName (options : Options) : Text :=
  let parts : List (Char × Text) := [('s', "Linux"), ('n', "localhost"), ('r', "6.1.0"),
    ('v', "#1 SMP"), ('m', "x86_64"), ('o', "GNU/Linux")]
  let asked (letter : Char) : Bool :=
    options.has letter || options.has 'a' || (options.isEmpty && letter = 's')
  Text.join " " ((parts.filter fun (letter, _) => asked letter).map (·.2))

/-- Tells who works at the machine. -/
def identity : FilterTool where
  known := { plain := "ugGnrza", words := [("user", 'u'), ("group", 'g'), ("groups", 'G'),
    ("name", 'n'), ("real", 'r'), ("zero", 'z')] }
  run := fun session options operands => do
    let kinds := (options.map (·.1)).filter "ugG".toList.contains
    match operands.filter fun name => name ≠ "root".toList ∧ name ≠ ['0'] with
    | name :: _ => refuse (FileTool.shown name ++ ": no such user")
    | [] =>
      if 1 < kinds.eraseDups.length then refuse "cannot print \"only\" of more than one choice"
      else if kinds.isEmpty then
        if options.has 'n' || options.has 'r' then
          refuse "cannot print only names or real IDs in default format"
        else return session.utters "uid=0(root) gid=0(root) groups=0(root)\n"
      else return session.utters (if options.has 'n' then "root\n" else "0\n")

/-- The moment that the options of `date` name. -/
def dateMoment (session : Session) (options : Options) : Except Misuse Int :=
  match options.value? 'd', options.value? 'r' with
  | some _, some _ =>
    refuseWithHint "the options to specify dates for printing are mutually exclusive"
  | some words, none =>
    match Clock.moment? session.disk.clock words with
    | some moment => .ok moment
    | none => refuse ("invalid date " ++ FileTool.printed words)
  | none, some path =>
    match FileTool.look session.disk true session.here path with
    | .ok (_, entry) => .ok (FileTool.timeOf entry)
    | .error reason => refuse (FileTool.named path ++ ": " ++ reason.words)
  | none, none => .ok session.disk.clock

/-- The format that the options of `date` choose. -/
def dateFormat? (options : Options) : Except Misuse (Option Text) :=
  let precisions : List (Text × Text) := [("", ""), ("date", ""), ("hours", "T%H%:z"),
    ("minutes", "T%H:%M%:z"), ("seconds", "T%H:%M:%S%:z"), ("ns", "T%H:%M:%S,%N%:z")]
  let apart : List (Text × Text) := [("date", ""), ("seconds", " %H:%M:%S%:z"),
    ("ns", " %H:%M:%S.%N%:z")]
  let chosen (table : List (Text × Text)) (name value : Text) : Except Misuse (Option Text) :=
    match table.lookup value with
    | some rest => .ok (some ("%Y-%m-%d" ++ rest))
    | none => .error (.other (("invalid argument " ++ FileTool.printed value ++ " for " ++
        FileTool.printed name) :: "Valid arguments are:" :: (table.map fun (word, _) =>
          "  - " ++ FileTool.printed word)) true)
  match options.reverse.find? fun (letter, _) => "IR3".toList.contains letter with
  | some ('I', value) => chosen precisions "--iso-8601" value
  | some ('3', value) => chosen apart "--rfc-3339" value
  | some _ => .ok (some "%a, %d %b %Y %H:%M:%S %z")
  | none => .ok none

/-- Tells the time, or another moment. -/
def dates : FilterTool where
  known := { plain := "uR", valued := "drfs3", trailing := "I", words := [("date", 'd'),
    ("utc", 'u'), ("universal", 'u'), ("reference", 'r'), ("file", 'f'), ("set", 's'),
    ("iso-8601", 'I'), ("rfc-email", 'R'), ("rfc-3339", '3'), ("debug", 'D')] }
  run := fun session options operands => do
    let tell (moment : Int) (format : Text) : Text := raw (Clock.formatted moment format) ++ ['\n']
    let format? ← dateFormat? options
    let format ← match operands, format? with
      | [], format? => pure (format?.getD "%a %b %e %H:%M:%S %Z %Y")
      | ['+' :: format], none => pure format
      | ['+' :: _], some _ => refuse "multiple output formats specified"
      | _ :: extra :: _, _ => throw (Misuse.excessOperand extra)
      | [operand], _ =>
        if "drfs".toList.any options.has then
          throw (Misuse.other [("the argument " ++ FileTool.printed operand ++
            " lacks a leading '+';"), "when using an option to specify date(s), any non-option",
            "argument must be a format string beginning with '+'"] true)
        else refuse ("invalid date " ++ FileTool.printed operand)
    match options.value? 'f' with
    | some path =>
      let (session, t, well) := session.source "date" [path]
      let session := (linesOf t).foldl (fun session line =>
        match Clock.moment? session.disk.clock line with
        | some moment => session.print 1 (tell moment format)
        | none => session.fails ("date: invalid date " ++ FileTool.printed line) 1)
        (session.ended (if well then 0 else 1))
      return session
    | none => return session.utters (tell (← dateMoment session options) format)

/-- Lets time pass. -/
def sleeps : FilterTool where
  known := {}
  run := fun session _ operands => do
    let operands ← someOf operands
    match operands.filter fun t => (Clock.length? t).isNone with
    | [] =>
      let length := (operands.filterMap Clock.length?).foldl (· + ·) 0
      return { session with
        disk := { session.disk with clock := session.disk.clock + length } }.ended 0
    | invalid => throw (Misuse.other ((invalid.map fun t =>
        "invalid time interval " ++ FileTool.printed t).zipIdx.map fun (line, k) =>
          if k = 0 then line else "sleep: " ++ line) true)

/-- Prints the variables that other processes are told of, or the values of some. -/
def environment : FilterTool where
  known := { plain := "0", leading := true, words := [("null", '0')] }
  run := fun session options names =>
    let ending : Char := if options.has '0' then '\x00' else '\n'
    if names.isEmpty then
      .ok (session.utters (raw (session.environment.flatMap fun (name, value) =>
        name ++ '=' :: value ++ [ending])))
    else .ok (names.foldl (fun session name =>
      match session.environment.lookup name with
      | some value => session.print 1 (raw (value ++ [ending]))
      | none => session.ended 1) (session.ended 0))

def machine : List (Text × FilterTool) := [
  ("uname", telling "asnrvmpio" [("all", 'a'), ("kernel-name", 's'), ("nodename", 'n'),
    ("kernel-release", 'r'), ("kernel-version", 'v'), ("machine", 'm'),
    ("operating-system", 'o')] machineName),
  ("arch", telling [] [] fun _ => "x86_64"), ("whoami", telling [] [] fun _ => "root"),
  ("hostname", telling "sfidA" [("short", 's')] fun _ => "localhost"),
  ("nproc", telling [] [("all", 'a'), ("ignore", 'i')] fun _ => "1"),
  ("groups", ⟨{}, fun session _ operands =>
    match operands.find? (· ≠ "root".toList) with
    | some name => refuse (FileTool.shown name ++ ": no such user")
    | none => .ok (session.utters (if operands.isEmpty then "root\n" else "root : root\n"))⟩),
  ("logname", ⟨{}, fun session _ operands =>
    match operands with
    | extra :: _ => .error (.excessOperand extra)
    | [] => .ok (session.fails "logname: no login name" 1)⟩),
  ("tty", ⟨{ plain := "s", words := [("silent", 's'), ("quiet", 's')] },
    fun session options operands =>
      match operands with
      | extra :: _ => .error (.excessOperand extra)
      | [] => .ok ((if options.has 's' then session
          else session.print 1 "not a tty\n").ended 1)⟩),
  ("id", identity), ("date", dates), ("sleep", sleeps), ("printenv", environment)]

end FilterTool

end Agenda.Shell
