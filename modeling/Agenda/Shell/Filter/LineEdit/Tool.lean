import Agenda.Shell.Filter.LineEdit.Reader
import Agenda.Shell.FilterTool.Basic

/-!
# Line edits as a tool

What `sed` is asked for: a script in parts, which are arguments or files, and files to be edited.
Their lines are printed, or take the places of those that are in the files.
-/

namespace Agenda.Shell.LineEdit

structure ScriptPart where
  /-- The file that it is in, if it is in one. -/
  file : Option Text := none
  text : Text

/-- The words for a place in a script that has so many characters before it; `count` parts before
were arguments. -/
def placeWords (count position : Nat) : List ScriptPart → Text
  | [] => []
  | piece :: rest =>
    let count := if piece.file.isNone then count + 1 else count
    let size := piece.text.length
    if position ≤ size ∨ rest.isEmpty then
      match piece.file with
      | none => "-e expression #" ++ Text.ofNat count ++ ", char " ++
          Text.ofNat (raw (piece.text.take position)).length
      | some path => "file " ++ path ++ " line " ++
          Text.ofNat ((piece.text.take (position - 1)).count '\n' + 1)
    else placeWords count (position - size - 1) rest

/-- The words about what is wrong with a script, and the status that is due to it. -/
def Misfit.about (pieces : List ScriptPart) : Misfit → Text × Nat
  | here words left =>
    let size := (Text.unlines (pieces.map ScriptPart.text)).length
    (placeWords 0 (size - left) pieces ++ ": " ++ words, 1)
  | nowhere words => (placeWords 0 0 pieces ++ ": " ++ words, 1)
  | noLabel name => ("can't find label for jump to \x60" ++ name ++ "'", 4)

/-- Whether a script says in its first line that lines are only printed by steps. -/
def saysQuiet (script : Text) : Bool := script = "#n".toList || Text.startsWith "#n\n" script

def Manner.ofOptions (options : Options) (script : Text) : Manner where
  quiet := options.has 'n' || saysQuiet script
  apart := options.has 's' || options.has 'i'
  inPlace := options.has 'i'
  mark := if options.has 'z' then '\x00' else '\n'
  width := (options.value? 'l').elim 70 fun width => (numberAt width).1

/-- The name of the copy of a file with what was in it before. -/
def backupName (suffix path : Text) : Text :=
  let (directory, name) := match path.reverse.span (· ≠ '/') with
    | (name, directory) => (directory.reverse, name.reverse)
  if suffix.contains '*' then
    let name := suffix.flatMap fun c => if c = '*' then name else [c]
    if suffix.contains '/' then name else directory ++ name
  else path ++ suffix

end Agenda.Shell.LineEdit

namespace Agenda.Shell.Session

open LineEdit

/-- The words for what is wrong with a line edit, and its status. -/
def failsEdit (session : Session) (words : Text) (status : Nat) : Session :=
  session.fails ("sed: " ++ words) status

def editPieces (session : Session) (options : Options) : Except Text (List ScriptPart × Session) :=
  options.foldlM (fun (pieces, session) (letter, value) =>
    if letter = 'e' then .ok (pieces ++ [{ text := value }], session)
    else if letter ≠ 'f' then .ok (pieces, session)
    else
      let withoutEnd (t : Text) : Text := if Text.endsWith "\n" t then t.dropLast else t
      let piece (t : Text) : ScriptPart :=
        { file := some value, text := withoutEnd ((Text.ofBytes? (bytesOf t)).getD t) }
      if value = ['-'] ∨ value = "/dev/stdin".toList then
        .ok (pieces ++ [piece (rawOf session.input)], { session with input := .empty })
      else if value = nullPath then .ok (pieces ++ [piece []], session)
      else match session.disk.read session.here value with
        | .ok bytes => .ok (pieces ++ [piece (rawOf bytes)], session)
        | .error refusal =>
          .error ("couldn't open file " ++ value ++ ": " ++ refusal.reason.words)) ([], session)

/-- The files to be edited, as far as they can be read, and the status that is due to the others. A
directory ends the reading. -/
def editSources (session : Session) (inPlace : Bool) :
    List Text → Session × List (Text × Text) × Nat
  | [] => (session, [], 0)
  | path :: rest =>
    let isDirectory := FileTool.isFolder session.disk session.here path
    if isDirectory ∧ !inPlace then
      (session.complains ("sed: read error on " ++ path ++ ": Is a directory"), [], 4)
    else if isDirectory then
      let session := session.complains ("sed: couldn't edit " ++ path ++ ": not a regular file")
      let (session, files, _) := session.editSources inPlace rest
      (session, files, 4)
    else
      let (session, found, well) := session.sources "sed" [path]
      let (session, files, status) := session.editSources inPlace rest
      (session, found ++ files, if well then status else max status 2)

/-- Writes raw text to the files that an edit prints to; the standard streams may be among them. -/
def writesTo (session : Session) (path t : Text) : Session :=
  match session.writeTo path t false with
  | .ok session => session
  | .error reason => session.failsEdit ("couldn't open file " ++ path ++ ": " ++ reason.words) 4

/-- Edits some files with a script and prints what comes out, or writes it to the files. -/
def editFiles (session : Session) (options : Options) (pieces : List ScriptPart) (files : List Text) :
    Session :=
  let script := Text.unlines (pieces.map ScriptPart.text)
  let extended := options.has 'E' || options.has 'r'
  let (after, found, status) := session.editSources (options.has 'i')
    (if files.isEmpty then [['-']] else files)
  let isText := found.all fun (_, t) => (Text.ofBytes? (bytesOf t)).isSome
  let read (t : Text) : Text := if isText then (Text.ofBytes? (bytesOf t)).getD t else t
  let bytes (t : Text) : Text := if isText then raw t else t
  match LineEdit.read extended (if isText then script else raw script) with
  | .error misfit =>
    let (words, status) := misfit.about pieces
    session.failsEdit words status
  | .ok steps =>
    let manner : Manner := { Manner.ofOptions options script with
      bytes
      read := fun path =>
        if path = "/dev/stdin".toList then some (read (rawOf session.input))
        else (session.disk.read session.here path).toOption.map fun contents =>
          read (rawOf contents) }
    let state := LineEdit.edit manner steps (found.map fun (name, t) => (name, read t))
    let text (goal : Option Text) : Text := bytes (state.outlet goal).text
    let after := ((goals steps).eraseDups.filter (· ≠ State.outputPath)).foldl (fun session path =>
      session.writesTo path (text (some path))) (after.ended 0)
    if after.status ≠ 0 then after
    else
      let edited := found.filter fun (name, t) =>
        manner.inPlace && !t.isEmpty && !state.rest.any fun line => line.starts && line.file == name
      let after := edited.foldl (fun session (name, t) =>
        let suffix := (options.value? 'i').getD []
        let session := if suffix.isEmpty then session
          else session.writesTo (backupName suffix name) t
        session.writesTo name (text (some name))) after
      let after := after.print 1 (text none)
      if state.lost then after.failsEdit
        (placeWords 0 0 pieces ++ ": no previous regular expression") 1
      else after.ended (if state.status = 0 then status else state.status)

def editLines (session : Session) (options : Options) (operands : List Text) : Session :=
  match session.editPieces options with
  | .error words => session.failsEdit words 4
  | .ok (pieces, session) =>
    let (pieces, files) : List ScriptPart × List Text := match pieces with
      | [] => ((operands.take 1).map fun script => { text := script }, operands.tail)
      | pieces => (pieces, operands)
    if pieces.isEmpty then
      session.fails
        "Usage: sed [OPTION]... \x7bscript-only-if-no-other-script\x7d [input-file]..." 1
    else if options.has 'i' ∧ files.isEmpty then session.failsEdit "no input files" 4
    else session.editFiles options pieces files

end Agenda.Shell.Session
