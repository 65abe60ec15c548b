import Agenda.Shell.Filter.ByteCompare
import Agenda.Shell.Filter.Compare
import Agenda.Shell.FilterTool.Basic

/-!
# Tools that compare files

The tool that tells where two files differ first, and the one that tells what makes one file or
directory of another one.
-/

namespace Agenda.Shell.FilterTool

open Agenda.Shell.Filter

/-- Tells where two files differ first. -/
def compareBytes : FilterTool where
  known := { plain := "sbl", valued := "in", words := [("silent", 's'), ("quiet", 's'),
    ("print-bytes", 'b'), ("verbose", 'l'), ("ignore-initial", 'i'), ("bytes", 'n')] }
  run := fun session options operands => do
    match operands with
    | [] => refuseWithHint "missing operand after 'cmp'"
    | first :: rest =>
      let compare ← ByteCompare.ofOptions options rest.tail
      let second := rest.headD ['-']
      let complain (session : Session) (path : Text) (reason : Disk.Reason) : Session :=
        if compare.silent then session
        else session.complains (Session.unreadable "cmp" path reason)
      let (session, one) := session.supply first
      let (session, other) := session.supply second
      match one, other with
      | .refused path reason, _ => return (complain session path reason).ended 2
      | _, .refused path reason => return (complain session path reason).ended 2
      | .text _ s, .text _ t =>
        let (s, t) := compare.parts s t
        let (out, words, status) := compare.told (raw first, raw second) s t
        let session := session.print 1 out
        match words with
        | some words => return session.fails ("cmp: " ++ words) status
        | none => return session.ended status

/-- What `diff` is asked for. -/
structure Comparison where
  form : ChangeForm
  same : LineSame
  brief : Bool
  tellsSame : Bool
  ignoresEmpty : Bool
  asText : Bool
  newFiles : Bool
  deep : Bool
  labels : List Text
  /-- The options as they are told when several files are compared. -/
  options : Text

namespace Comparison

/-- The number of lines that an option asks for. -/
def contextOf (value : Text) : Except Misuse Nat :=
  match whole? value with
  | some n => .ok n
  | none => refuseWithHint ("invalid context length '" ++ value ++ "'")

def formOf (options : Options) : Except Misuse ChangeForm := do
  let width := ((options.value? 'W').bind whole?).getD 130
  match (options.filter fun option => "uUcCeny".toList.contains option.1).getLast? with
  | some ('u', _) => return .unified 3
  | some ('U', value) => return .unified (← contextOf value)
  | some ('c', _) => return .apart 3
  | some ('C', value) => return .apart (← contextOf value)
  | some ('e', _) => return .commands
  | some ('n', _) => return .counted
  | some ('y', _) => return .beside width (options.has '-')
  | _ => return .plain

def ofOptions (options : Options) : Except Misuse Comparison := do
  let letters := options.filter fun option => option.1 != 'L'
  return {
    form := ← formOf options
    same := {
      ignoresCase := options.has 'i'
      ignoresWidth := options.has 'b'
      ignoresBlanks := options.has 'w'
      ignoresTrail := options.has 'Z'
      ignoresReturn := options.has 'R'
      ignoresEnd := options.has 'e' }
    brief := options.has 'q'
    tellsSame := options.has 's'
    ignoresEmpty := options.has 'B'
    asText := options.has 'a'
    newFiles := options.has 'N'
    deep := options.has 'r'
    labels := options.values 'L'
    options := letters.flatMap fun (letter, value) => ' ' :: '-' :: letter :: value }

def onlyEmpty (comparison : Comparison) (changes : List LineChange) : Bool :=
  let isEmpty (line : Text) : Bool := line.all isGap
  comparison.ignoresEmpty && changes.all fun
    | .kept _ _ => true
    | .dropped line => isEmpty line
    | .added line => isEmpty line

/-- What is printed about two texts under some names, each with its time, and the status. -/
def told (comparison : Comparison) (several : Bool) (first second : Text × Int)
    (s t : Text) : Text × Nat :=
  let differ (kind : Text) : Text := kind ++ first.1 ++ " and " ++ second.1 ++ " differ\n"
  let isBinary (t : Text) : Bool := t.contains '\x00'
  let same : Text × Nat := (if comparison.tellsSame then
    "Files " ++ first.1 ++ " and " ++ second.1 ++ " are identical\n" else [], 0)
  if s = t then
    match comparison.form with
    | .beside _ false => (comparison.form.told ([], [])
        ((fullLines s).map fun line => .kept line line), 0)
    | _ => same
  else if !comparison.asText && (isBinary s || isBinary t) then
    if comparison.brief then (differ "Files ", 1) else (differ "Binary files ", 2)
  else
    let changes := lineChanges comparison.same.holds (fullLines s) (fullLines t)
    if changes.all LineChange.isKept || comparison.onlyEmpty changes then
      match comparison.form with
      | .beside _ false => (comparison.form.told ([], []) changes, 0)
      | _ => same
    else if comparison.brief then (differ "Files ", 1)
    else
      let stamped (index : Nat) (file : Text × Int) : Text :=
        (comparison.labels[index]?).getD
          (file.1 ++ '\t' :: Clock.formatted file.2 "%F %T.%N %z")
      let title := if several then
          "diff" ++ comparison.options ++ ' ' :: first.1 ++ ' ' :: second.1 ++ ['\n']
        else []
      (title ++ comparison.form.told (stamped 0 first, stamped 1 second) changes, 1)

end Comparison

end FilterTool

namespace Session

open FilterTool

def entryAt (session : Session) (path : Text) : Option Entry :=
  if path = ['-'] then none
  else (FileTool.at? session.disk session.here path).map (·.2)

/-- Compares two files, of which one may be missing, and ends with the status that is due to it. -/
def comparesFiles (session : Session) (comparison : Comparison) (several : Bool)
    (first second : Text) : Session :=
  let named (path : Text) : Text × Int :=
    (raw path, ((session.entryAt path).map FileTool.timeOf).getD session.disk.clock)
  let (after, one) := session.supply first
  let (after, other) := after.supply second
  let texts : Option (Text × Text) := match one, other with
    | .text _ s, .text _ t => some (s, t)
    | .text _ s, .refused _ .missing => if comparison.newFiles then some (s, []) else none
    | .refused _ .missing, .text _ t => if comparison.newFiles then some ([], t) else none
    | _, _ => none
  match texts with
  | some (s, t) =>
    let (out, status) := comparison.told several (named first) (named second) s t
    (after.print 1 out).ended (max session.status status)
  | none =>
    ([one, other].foldl (fun session supply =>
      match supply with
      | .refused path reason => session.complains (unreadable "diff" path reason)
      | .text _ _ => session) after).ended 2

/-- Compares what is at two paths, and goes into directories as deep as is asked for. -/
def compares (comparison : Comparison) : Nat → (several : Bool) → (first second : Text) → Session →
    Session
  | 0, _, _, _, session => session
  | fuel + 1, several, first, second, session =>
    match session.entryAt first, session.entryAt second with
    | some (.directory _), some (.directory _) =>
      if several ∧ !comparison.deep then
        session.print 1 ("Common subdirectories: " ++ raw first ++ " and " ++ raw second ++ "\n")
      else
        let names (path : Text) : List Text :=
          match FileTool.place? session.disk session.here path with
          | some place => FileTool.namesIn session.disk place true
          | none => []
        let own := names first
        let others := names second
        let all := (own ++ others.filter fun name => !own.contains name).mergeSort
          fun a b => decide (¬ b < a)
        let lone (session : Session) (path name : Text) : Session :=
          (session.print 1 ("Only in " ++ raw path ++ ": " ++ raw name ++ "\n")).ended
            (max session.status 1)
        all.foldl (fun session name =>
          if comparison.newFiles ∨ (own.contains name ∧ others.contains name) then
            compares comparison fuel true (FileTool.below first name) (FileTool.below second name)
              session
          else if own.contains name then lone session first name
          else lone session second name) session
    | some (.directory _), some _ =>
      if several then
        (session.print 1 ("File " ++ raw first ++ " is a directory while file " ++ raw second ++
          " is a regular file\n")).ended (max session.status 1)
      else session.comparesFiles comparison several
        (FileTool.below first (FileTool.lastName second)) second
    | some _, some (.directory _) =>
      if several then
        (session.print 1 ("File " ++ raw first ++ " is a regular file while file " ++ raw second ++
          " is a directory\n")).ended (max session.status 1)
      else session.comparesFiles comparison several first
        (FileTool.below second (FileTool.lastName first))
    | _, _ => session.comparesFiles comparison several first second

end Session

namespace FilterTool

open Agenda.Shell.Filter

/-- Tells what makes one file or directory of another one. -/
def compareLines : FilterTool where
  known := { plain := "quesrNabBiwyncZ", valued := "UCLW", words := [("brief", 'q'),
    ("unified", 'u'), ("report-identical-files", 's'), ("context", 'c'), ("ed", 'e'),
    ("rcs", 'n'), ("side-by-side", 'y'), ("width", 'W'), ("recursive", 'r'), ("new-file", 'N'),
    ("text", 'a'), ("ignore-case", 'i'), ("ignore-space-change", 'b'),
    ("ignore-all-space", 'w'), ("ignore-trailing-space", 'Z'), ("ignore-blank-lines", 'B'),
    ("strip-trailing-cr", 'R'), ("label", 'L'), ("suppress-common-lines", '-'), ("normal", '='),
    ("color", '='), ("minimal", '=')] }
  run := fun session options operands => do
    let comparison ← Comparison.ofOptions options
    match operands with
    | [] => refuseWithHint "missing operand after 'diff'"
    | [last] => refuseWithHint ("missing operand after '" ++ last ++ "'")
    | _ :: _ :: extra :: _ => refuseWithHint ("extra operand '" ++ extra ++ "'")
    | [first, second] =>
      return Session.compares comparison (session.disk.entries.length + 1) false first second
        (session.ended 0)

def compare : List (Text × FilterTool) := [("cmp", compareBytes), ("diff", compareLines)]

end FilterTool

end Agenda.Shell
