import Agenda.Shell.Builtin.Table
import Agenda.Shell.Filter.LineEdit.Tool
import Agenda.Shell.Filter.Sort
import Agenda.Shell.FilterTool.Bytes
import Agenda.Shell.FilterTool.Columns
import Agenda.Shell.FilterTool.Compare
import Agenda.Shell.FilterTool.Digests
import Agenda.Shell.FilterTool.Lines
import Agenda.Shell.FilterTool.Machine
import Agenda.Shell.FilterTool.Words

/-!
# Tools of scripts

The filters that a script can call, by their names; and all programs of the system that act by
themselves: the file tools, the filters, and those that do what a command of the shell does as well.
-/

namespace Agenda.Shell

namespace FilterTool

def sortKnown : Known where
  plain := "nrufbsdgchiMRVCmz"
  valued := "ktoST"
  words := [("reverse", 'r'), ("numeric-sort", 'n'), ("unique", 'u'), ("key", 'k'),
    ("field-separator", 't'), ("ignore-case", 'f'), ("output", 'o'), ("stable", 's'),
    ("check", 'c'), ("general-numeric-sort", 'g'), ("human-numeric-sort", 'h'),
    ("month-sort", 'M'), ("version-sort", 'V'), ("dictionary-order", 'd'),
    ("ignore-leading-blanks", 'b'), ("ignore-nonprinting", 'i'), ("merge", 'm'),
    ("zero-terminated", 'z'), ("buffer-size", 'S'), ("temporary-directory", 'T'),
    ("parallel", 'S')]

def editKnown : Known where
  plain := "nErsuzb"
  valued := "efl"
  trailing := "i"
  words := [("quiet", 'n'), ("silent", 'n'), ("expression", 'e'), ("file", 'f'),
    ("in-place", 'i'), ("regexp-extended", 'E'), ("line-length", 'l'), ("separate", 's'),
    ("unbuffered", 'u'), ("null-data", 'z'), ("zero-terminated", 'z'), ("posix", 'b'),
    ("sandbox", 'b')]

def languages : List (Text × FilterTool) := [
  ("sort", ⟨sortKnown, fun session options operands =>
    .ok (session.sortLines options operands)⟩),
  ("sed", ⟨editKnown, fun session options operands =>
    .ok (session.editLines options operands)⟩)]

def all : List (Text × FilterTool) :=
  lines ++ columns ++ compare ++ digests ++ bytes ++ blocks ++ words ++ searches ++ machine ++
    languages

def find? (name : Text) : Option FilterTool := all.lookup name

end FilterTool

namespace Session

/-- How a tool ends that was called the wrong way. -/
def rejects (session : Session) (name : Text) (misuse : Misuse) : Session :=
  session.misused name misuse (if name = "sed".toList then 1 else badSource name)

/-- What a tool has done to the disk, what it has said on the way, and how it ends. -/
def settle (session : Session) (name : Text) (deed : Deed) : Session :=
  let session := { session with disk := deed.disk, input := deed.input }
  (deed.remarks.foldl (fun session remark => session.heard name remark) session).ended
    (if deed.well then 0 else badSource name)

def does (session : Session) (name : Text) (tool : FileTool) (arguments : List Text) : Session :=
  match tool.known.split arguments with
  | .error misuse => session.rejects name misuse
  | .ok (options, operands) =>
    let start : Deed := { disk := session.disk, input := session.input }
    match tool.act session.here options start operands with
    | .error misuse => session.rejects name misuse
    | .ok deed => session.settle name deed

def filters (session : Session) (name : Text) (tool : FilterTool) (arguments : List Text) :
    Session :=
  match tool.known.split arguments with
  | .error misuse => session.rejects name misuse
  | .ok (options, operands) =>
    match tool.run session options operands with
    | .error misuse => session.rejects name misuse
    | .ok session => session

def printsAsTool (session : Session) (arguments : List Text) : Session :=
  let arguments := if arguments.head? = some "--".toList then arguments.tail else arguments
  match arguments with
  | [] => session.rejects "printf" (.fewOperands none)
  | format :: arguments =>
    let (remarks, status) := Printer.tool.run format arguments
    (remarks.foldl (fun session remark => session.heard "printf" remark) session).ended status

/-- The answer of the tool `test`. -/
def answersAsTool (session : Session) (name : Text) (words : List Text) : Session :=
  match Condition.holds { session.informant with larger := true } words with
  | .ok answer => session.ended (if answer then 0 else 1)
  | .error fault => session.fails (name ++ ": " ++ fault.toolMessage words) 2

/-- The answer of the tool `[`. -/
def answersAsBracket (session : Session) (words : List Text) : Session :=
  if words.getLast? = some [']'] then session.answersAsTool ['['] words.dropLast
  else session.fails "[: missing ‘]’" 2

/-- The session behind a command that may have printed to where nothing can be printed. -/
def written (session : Session) (isBuiltin : Bool) (name : Text) : Session :=
  match session.unwritten, blocked? (session.channels.lookup 1) with
  | true, some reason =>
    let session := { session with unwritten := false }
    if isBuiltin then session.failsAs (name ++ ": " ++ name ++ ": I/O error") 1
    else session.fails (name ++ (if name = "cat".toList then ": standard output: "
      else ": write error: ") ++ reason) (badSource name)
  | _, _ => { session with unwritten := false }

end Session

/-- The tools that do what commands of the shell do as well. -/
def likeBuiltins : List (Text × Builtin) := [
  ("true", Builtin.idle 0), ("false", Builtin.idle 1), ("sync", Builtin.idle 0),
  ("echo", Builtin.plain fun session arguments => session.utters (echoBy .tool arguments)),
  ("printf", Builtin.plain Session.printsAsTool),
  ("test", Builtin.plain fun session => session.answersAsTool "test"),
  ("[", Builtin.plain Session.answersAsBracket),
  ("pwd", Builtin.plain fun session _ =>
    session.utters (raw (FileTool.pathText session.here) ++ "\n")),
  ("kill", Session.kill)]

def tool? (name : Text) : Option Builtin :=
  (likeBuiltins.lookup name).or
    (match FileTool.find? name, FilterTool.find? name with
      | some tool, _ => some (Builtin.plain fun session => session.does name tool)
      | none, some tool => some (Builtin.plain fun session => session.filters name tool)
      | none, none => none)

end Agenda.Shell
