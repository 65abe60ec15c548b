import Agenda.Shell.Expression
import Agenda.Shell.Filter

/-!
# Editing lines

What a script of `sed` does. For every line that is read the steps of the script are taken one after
the other, each if the line is one that it is meant for; what they leave of the line is printed in
the end. Steps can also print to files, and read others.
-/

namespace Agenda.Shell.LineEdit

/-- What is looked for. -/
structure Pattern where
  fold : Bool
  e : Expression

inductive Address
  | line (n : Nat)
  | every (first step : Nat)
  | last
  /-- The lines in which a pattern is found, or the one that was looked for before. -/
  | found (pattern : Option Pattern)

inductive Stop
  | atLine (address : Address)
  | further (count : Nat)
  | multiple (n : Nat)

/-- The lines that a step is meant for: all of them, those of an address, those of ranges, or all
but those. -/
structure Scope where
  start : Option Address := none
  stop : Option Stop := none
  others : Bool := false

/-- A substitution: what is replaced by what, whether the line is printed then, and the file that it
is printed to as well. -/
structure Substitution where
  pattern : Option Pattern
  new : Text
  first : Nat
  everywhere : Bool
  prints : Bool
  goal : Option Text

/-- What a step does. The line that is being edited is also called the text at hand; another text
can be kept for later. -/
inductive Edit
  | substitute (change : Substitution)
  | exchange (pairs : List (Char × Char))
  | delete
  | deleteFirst
  | print
  | printFirst
  | printTo (path : Text)
  | printFirstTo (path : Text)
  /-- Prints the text at hand with signs for the characters that do not show. -/
  | spell (width : Option Nat)
  | number
  | name
  | next
  | addNext
  | keep
  | addToKept
  | fetch
  | addKept
  | swap
  | clear
  | append (t : Text)
  | appendFile (path : Text)
  | appendLine (path : Text)
  | insert (t : Text)
  | replace (t : Text)
  | quit (prints : Bool) (status : Nat)
  | jump (label : Text)
  | jumpIf (changed : Bool) (label : Text)
  | label (name : Text)
  | opens
  | closes

/-- A step of a script with its place in it. -/
structure Step where
  place : Nat
  scope : Scope
  edit : Edit

structure Manner where
  /-- Whether lines are only printed by steps that ask for it. -/
  quiet : Bool := false
  /-- Whether every file counts by itself. -/
  apart : Bool := false
  /-- Whether what is printed about a file goes to that file. -/
  inPlace : Bool := false
  /-- What ends a line. -/
  mark : Char := '\n'
  /-- Where lines are broken that are spelled. -/
  width : Nat := 70
  read : Text → Option Text := fun _ => none
  bytes : Text → Text := id

structure Line where
  text : Text
  ended : Bool
  file : Text
  /-- Whether it is the first of that file. -/
  starts : Bool

def linesOf (mark : Char) (t : Text) : List (Text × Bool) :=
  let parts := t.splitOn mark
  parts.dropLast.map (·, true) ++ (parts.getLast?.toList.filter (· ≠ [])).map (·, false)

def Line.ofFile (mark : Char) (file : Text × Text) : List Line :=
  ((linesOf mark file.2).zipIdx).map fun ((text, ended), n) => ⟨text, ended, file.1, n = 0⟩

/-- What has been printed to one place. -/
structure Outlet where
  /-- The parts, the last one first. -/
  parts : List Text := []
  /-- Whether the last line still needs its end. -/
  owes : Bool := false

namespace Outlet

/-- All that has been printed. -/
def text (outlet : Outlet) : Text := outlet.parts.reverse.flatten

/-- Prints something, behind the end of the line before if that is missing. -/
def print (outlet : Outlet) (mark : Char) (t : Text) (owes : Bool) : Outlet :=
  { parts := t :: (if outlet.owes then [[mark]] else []) ++ outlet.parts, owes }

end Outlet

inductive Behind
  | text (t : Text)
  | file (path : Text)

/-- A text that may lack the end of its line. -/
structure Held where
  text : Text := []
  ended : Bool := true

structure State where
  rest : List Line
  /-- The file that the line at hand is in. -/
  file : Text := []
  number : Nat := 0
  space : Held := {}
  kept : Held := {}
  /-- What is to be printed behind the line. -/
  behind : List Behind := []
  /-- What was printed, and to which file if it was to one. -/
  outlets : List (Option Text × Outlet) := []
  /-- The files of which single lines have been read, or that can be read only once, with what is
  left of them. -/
  sources : List (Text × List (Text × Bool)) := []
  changed : Bool := false
  /-- The pattern that was looked for last. -/
  latest : Option Pattern := none
  /-- Whether a pattern from before was to be looked for, but there was none. -/
  lost : Bool := false
  /-- The ranges that have started, by the places of their steps, with the number of the line that
  they stop at if that is known. -/
  ranges : List (Nat × Option Nat) := []
  /-- The steps whose ranges are over for good. -/
  closed : List Nat := []
  /-- The ranges that have started before the first line. -/
  started : List (Nat × Option Nat) := []
  status : Nat := 0

namespace State

def outputPath : Text := "/dev/stdout"

/-- What has been printed to a place. -/
def outlet (state : State) (goal : Option Text) : Outlet := (state.outlets.lookup goal).getD {}

/-- The state with something else printed to a place. -/
def setOutlet (state : State) (goal : Option Text) (outlet : Outlet) : State :=
  { state with outlets := (goal, outlet) :: state.outlets.filter (·.1 ≠ goal) }

def printTo (manner : Manner) (state : State) (goal : Option Text) (t : Text) (owes : Bool) :
    State :=
  let old := state.outlet goal
  let new := old.print manner.mark t owes
  if goal = some outputPath then
    let output := state.outlet none
    (state.setOutlet none { output with parts := new.parts ++ output.parts }).setOutlet goal
      { new with parts := [] }
  else state.setOutlet goal new

def goal (manner : Manner) (state : State) : Option Text :=
  if manner.inPlace then some state.file else none

def emit (manner : Manner) (state : State) (t : Text) : State :=
  state.printTo manner (state.goal manner) t false

/-- Prints a line to a place, with its end if the line at hand has one. -/
def printLine (manner : Manner) (state : State) (goal : Option Text) (t : Text) : State :=
  state.printTo manner goal (if state.space.ended then t ++ [manner.mark] else t)
    (!state.space.ended)

/-- Prints the first line of the text at hand to a place. -/
def printFirst (manner : Manner) (state : State) (goal : Option Text) : State :=
  match Text.cutAt? manner.mark state.space.text with
  | some (first, _) => state.printTo manner goal (first ++ [manner.mark]) false
  | none => state.printLine manner goal state.space.text

def emitLine (manner : Manner) (state : State) : State :=
  state.printLine manner (state.goal manner) state.space.text

/-- Prints what is to be printed behind the line. -/
def flush (manner : Manner) (state : State) : State :=
  let print (state : State) : Behind → State
    | .text t => state.emit manner t
    | .file path =>
      if (state.sources.lookup path).isSome then state
      else
        let state := if path = "/dev/stdin".toList then
            { state with sources := (path, []) :: state.sources }
          else state
        match ((state.outlets.lookup (some path)).map Outlet.text).or (manner.read path) with
        | some t => if t.isEmpty then state else state.emit manner t
        | none => state
  state.behind.foldl print { state with behind := [] }

/-- Prints the line at hand, unless only steps print, and what comes behind it. -/
def finish (manner : Manner) (state : State) : State :=
  (if manner.quiet then state else state.emitLine manner).flush manner

/-- Whether the line at hand is the last one, of its file if every file counts by itself. -/
def isLast (manner : Manner) (state : State) : Bool :=
  match state.rest with
  | [] => true
  | line :: _ => manner.apart && line.starts

/-- The state with the next line at hand, if there is one; `joined` says that it is put behind the
text at hand. -/
def next? (manner : Manner) (joined : Bool) (state : State) : Option State :=
  match state.rest with
  | [] => none
  | line :: rest =>
    let text := if joined then state.space.text ++ manner.mark :: line.text else line.text
    let state := { state with rest, file := line.file, space := ⟨text, line.ended⟩ }
    if manner.apart ∧ line.starts then
      some { state with number := 1, ranges := state.started, closed := [], kept := {} }
    else some { state with number := state.number + 1 }

/-- Whether a pattern is found in the text at hand; without one, that is the one from before. -/
def isFound (state : State) (pattern : Option Pattern) : Bool × State :=
  match pattern.or state.latest with
  | some pattern =>
    (pattern.e.occurs pattern.fold state.space.text, { state with latest := some pattern })
  | none => (false, { state with lost := true })

def isAt (manner : Manner) (state : State) : Address → Bool × State
  | .line n => (state.number == n, state)
  | .every first step =>
    (if step = 0 then state.number == first
      else first ≤ state.number && (state.number - first) % step == 0, state)
  | .last => (state.isLast manner, state)
  | .found pattern => state.isFound pattern

/-- The line that a range stops at if it starts at the line at hand and its length is known. -/
def stopLine? (state : State) : Stop → Option Nat
  | .atLine (.line n) => some n
  | .further count => some (state.number + count)
  | .multiple n => some (if n = 0 then state.number else (state.number / n + 1) * n)
  | .atLine _ => none

/-- The state with the range of a step going on, up to a line if its number is known. -/
def within (state : State) (step : Step) (last : Option Nat) : State :=
  { state with ranges := (step.place, last) :: state.ranges.filter (·.1 ≠ step.place) }

/-- The state with the range of a step over. One that starts at the number of a line does not start
again. -/
def without (state : State) (step : Step) : State :=
  let state := { state with ranges := state.ranges.filter (·.1 ≠ step.place) }
  match step.scope.start with
  | some (.line _) => { state with closed := step.place :: state.closed }
  | _ => state

/-- Whether the line at hand is in the range of a step that may start or go on here. A range that
starts at the number of a line can also start behind that line, if it was missed. -/
def isInRange (manner : Manner) (state : State) (step : Step) (start : Address) (stop : Stop) :
    Bool × State :=
  match state.ranges.lookup step.place, stop with
  | some (some last), .atLine _ =>
    (state.number ≤ last, if last ≤ state.number then state.without step else state)
  | some (some last), _ =>
    if state.number < last then (true, state)
    else if state.number = last then (true, state.without step)
    else (state.without step).isAt manner start
  | some none, .atLine address =>
    let (stops, state) := state.isAt manner address
    (true, if stops then state.without step else state)
  | some none, _ => (true, state)
  | none, stop =>
    let (starts, exactly, state) : Bool × Bool × State := match start with
      | .line n => (n ≤ state.number && !state.closed.contains step.place, n = state.number, state)
      | start =>
        let (starts, state) := state.isAt manner start
        (starts, true, state)
    if !starts then (false, state)
    else match state.stopLine? stop with
      | some last =>
        if state.number < last then (true, state.within step (some last))
        else (exactly || last = state.number, state.without step)
      | none => (true, state.within step none)

def covers (manner : Manner) (state : State) (step : Step) : Bool × State :=
  let (covered, state) : Bool × State :=
    match step.scope.start, step.scope.stop with
    | none, _ => (true, state)
    | some start, none => state.isAt manner start
    | some start, some stop => state.isInRange manner step start stop
  (covered != step.scope.others, state)

/-- The state with a substitution made in the text at hand. -/
def substitute (manner : Manner) (state : State) (change : Substitution) : State :=
  match change.pattern.or state.latest with
  | none => { state with lost := true }
  | some pattern =>
    let (text, changed) := Replacement.apply
      ⟨pattern.e, pattern.fold, change.new, change.first, change.everywhere⟩ state.space.text
    let state := { state with
      space := { state.space with text }
      latest := some pattern, changed := state.changed || changed }
    if !changed then state
    else
      let state := if change.prints then state.emitLine manner else state
      match change.goal with
      | some path => state.printLine manner (some path) text
      | none => state

/-- The state with the next line of a file to be printed behind the line at hand. -/
def appendLine (manner : Manner) (state : State) (path : Text) : State :=
  let lines := (state.sources.lookup path).getD
    (((manner.read path).map (linesOf manner.mark)).getD [])
  let left := (path, lines.tail) :: state.sources.filter (·.1 ≠ path)
  match lines with
  | [] => state
  | (t, ended) :: _ =>
    { state with
      sources := left
      behind := state.behind ++ [.text (if ended then t ++ [manner.mark] else t)] }

end State

def spelled (c : Char) : Text :=
  let table : List (Char × Text) := [('\\', "\\\\"), ('\x07', "\\a"), ('\x08', "\\b"),
    ('\x0c', "\\f"), ('\n', "\\n"), ('\r', "\\r"), ('\t', "\\t"), ('\x0b', "\\v")]
  match table.lookup c with
  | some signs => signs
  | none =>
    if ' ' ≤ c ∧ c ≤ '~' then [c]
    else '\\' :: [c.toNat / 64, c.toNat / 8 % 8, c.toNat % 8].map Nat.digitChar

/-- A text with signs for the characters that do not show, broken into lines of a width if there is
one; `used` says how much of the line is used. -/
def spellFrom (width used : Nat) : Text → Text
  | [] => "$\n"
  | c :: rest =>
    let signs := spelled c
    if width ≠ 0 ∧ width ≤ used + signs.length then
      '\\' :: '\n' :: signs ++ spellFrom width signs.length rest
    else signs ++ spellFrom width (used + signs.length) rest

/-- The steps behind the end of a block; `depth` blocks have been opened in it. -/
def behindBlock : Nat → List Step → List Step
  | _, [] => []
  | depth, step :: rest =>
    match step.edit, depth with
    | .closes, 0 => rest
    | .closes, depth + 1 => behindBlock depth rest
    | .opens, depth => behindBlock (depth + 1) rest
    | _, depth => behindBlock depth rest

/-- The steps behind a label; there are none if there is no such label, or no name. -/
def behindLabel (name : Text) : List Step → List Step
  | [] => []
  | step :: rest =>
    match step.edit with
    | .label own => if own = name ∧ name ≠ [] then rest else behindLabel name rest
    | _ => behindLabel name rest

inductive Course
  /-- With some steps for the line at hand. -/
  | steps (todo : List Step)
  /-- With the next line; the line at hand is dropped. -/
  | nextLine
  /-- With the first step and the line at hand. -/
  | again
  | ends

/-- What a step does to the line at hand, with the steps behind it and all steps. -/
def Edit.act (manner : Manner) (edit : Edit) (all todo : List Step) (inRange : Bool)
    (state : State) : Course × State :=
  let goesOn (state : State) : Course × State := (.steps todo, state)
  let hold (text : Text) : Held := { state.space with text }
  match edit with
  | .substitute change => goesOn (state.substitute manner change)
  | .exchange pairs =>
    goesOn { state with space := hold (state.space.text.map fun c => (pairs.lookup c).getD c) }
  | .delete => (.nextLine, state)
  | .deleteFirst =>
    match Text.cutAt? manner.mark state.space.text with
    | some (_, rest) => (.again, { state with space := hold rest })
    | none => (.nextLine, state)
  | .print => goesOn (state.emitLine manner)
  | .printFirst => goesOn (state.printFirst manner (state.goal manner))
  | .printTo path => goesOn (state.printLine manner (some path) state.space.text)
  | .printFirstTo path => goesOn (state.printFirst manner (some path))
  | .spell width =>
    goesOn (state.emit manner
      (spellFrom (width.getD manner.width) 0 (manner.bytes state.space.text)))
  | .number => goesOn (state.emit manner (Text.ofNat state.number ++ [manner.mark]))
  | .name => goesOn (state.emit manner (state.file ++ ['\n']))
  | .next =>
    if state.isLast manner then (.steps [], state)
    else
      let state := state.finish manner
      goesOn ((state.next? manner false).getD state)
  | .addNext =>
    if state.isLast manner then (.steps [], state)
    else goesOn (((state.flush manner).next? manner true).getD state)
  | .keep => goesOn { state with kept := state.space }
  | .addToKept =>
    goesOn { state with kept :=
      { state.space with text := state.kept.text ++ manner.mark :: state.space.text } }
  | .fetch => goesOn { state with space := state.kept }
  | .addKept =>
    goesOn { state with space :=
      { state.kept with text := state.space.text ++ manner.mark :: state.kept.text } }
  | .swap => goesOn { state with space := state.kept, kept := state.space }
  | .clear => goesOn { state with space := hold [] }
  | .append t => goesOn { state with behind := state.behind ++ [.text t] }
  | .appendFile path => goesOn { state with behind := state.behind ++ [.file path] }
  | .appendLine path => goesOn (state.appendLine manner path)
  | .insert t => goesOn (state.emit manner t)
  | .replace t => (.nextLine, if inRange then state else state.emit manner t)
  | .quit prints status =>
    let state := if prints then (state.finish manner).emit manner [] else state
    (.ends, { state with status })
  | .jump goal => (.steps (behindLabel goal all), state)
  | .jumpIf changed goal =>
    let cleared := { state with changed := false }
    if state.changed = changed then (.steps (behindLabel goal all), cleared) else goesOn cleared
  | .label _ | .opens | .closes => goesOn state

/-- Takes steps, at most `fuel` of them. -/
def run (manner : Manner) (all : List Step) : Nat → List Step → State → State
  | 0, _, state => state
  | fuel + 1, todo, state =>
    if state.lost then state
    else match todo with
    | [] => nextLine all (run manner all fuel) (state.finish manner)
    | step :: todo =>
      let (covered, state) := state.covers manner step
      let inRange := (state.ranges.lookup step.place).isSome && !step.scope.others
      if covered then
        match step.edit.act manner all todo inRange state with
        | (.steps todo, state) => run manner all fuel todo state
        | (.nextLine, state) => nextLine all (run manner all fuel) (state.flush manner)
        | (.again, state) => run manner all fuel all (state.flush manner)
        | (.ends, state) => state
      else match step.edit with
        | .opens => run manner all fuel (behindBlock 0 todo) state
        | _ => run manner all fuel todo state
where
  /-- Goes on with the next line, if there is one. -/
  nextLine (all : List Step) (goOn : List Step → State → State) (state : State) : State :=
    match state.next? manner false with
    | none => state
    | some state => goOn all { state with changed := false }

def startedRanges (steps : List Step) : List (Nat × Option Nat) :=
  steps.filterMap fun step =>
    match step.scope.start, step.scope.stop with
    | some (.line 0), some _ => some (step.place, none)
    | _, _ => none

def goals (steps : List Step) : List Text :=
  steps.filterMap fun step =>
    match step.edit with
    | .printTo path | .printFirstTo path => some path
    | .substitute change => change.goal
    | _ => none

/-- What a script makes of files with raw text. -/
def edit (manner : Manner) (steps : List Step) (files : List (Text × Text)) : State :=
  let size := (files.map fun (_, t) => t.length).foldl (· + ·) 0
  let state : State := {
    rest := files.flatMap (Line.ofFile manner.mark)
    ranges := startedRanges steps, started := startedRanges steps }
  run.nextLine manner steps (run manner steps ((size + 100) * (steps.length + 1) * 1000)) state

end Agenda.Shell.LineEdit
