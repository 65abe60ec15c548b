import Agenda.Render.Basic
import Agenda.Text.Digit

/-!
# Choices on the command line

The switches and settings of the program, and how a row of arguments chooses among them. A name may
be cut short as long as it stays clear which one is meant. The value of a setting is behind an
equals sign, right behind a letter, or the next argument. Letters of switches may be written
together behind one dash. A later value counts. How letters and equals signs go together, and what
two dashes mean as a value, has changed over time (`Dialect`).
-/

namespace Agenda.CommandLine

/-- The manners of reading arguments that differ. -/
inductive Dialect
  /-- The letters of switches may go on behind an equals sign, and an equals sign behind the letter
  of a setting belongs to its value if there is a switch before it. Two dashes right behind a
  setting stand for no value. -/
  | earlier
  /-- A switch is never followed by an equals sign, which never belongs to a value that it
  introduces. Two dashes right behind a setting are its value. -/
  | later
deriving Repr, DecidableEq

/-- Options without a value. -/
inductive Switch
  | help
  | pdf
  | skipInvalid
  | keep
  | dump
  | verbose
deriving Repr, DecidableEq

/-- Options with a value. -/
inductive Setting
  | input
  | format
  | output
  | template
  | dayMinutes
  | logFile
deriving Repr, DecidableEq

/-- An option. -/
inductive Choice
  | switch (switch : Switch)
  | setting (setting : Setting)
deriving Repr, DecidableEq

/-- The names of the options; a name is a letter behind one dash or a word behind two. -/
def names : List (Text × Choice) := [
  ("-h", .switch .help), ("--help", .switch .help),
  ("-i", .setting .input), ("--input", .setting .input),
  ("-f", .setting .format), ("--format", .setting .format),
  ("-o", .setting .output), ("--output", .setting .output),
  ("--pdf", .switch .pdf),
  ("-t", .setting .template), ("--template", .setting .template),
  ("--skip-invalid", .switch .skipInvalid),
  ("--html-day-minutes", .setting .dayMinutes),
  ("--save-temps", .switch .keep),
  ("-d", .switch .dump), ("--dump", .switch .dump),
  ("--log-file", .setting .logFile),
  ("-v", .switch .verbose), ("--verbose", .switch .verbose)]

inductive Argument
  | value
  /-- No option is known by its name. -/
  | unknown
  /-- Its name is cut too short. -/
  | ambiguous
  /-- It gives a value to a switch, or has a letter that no option is known by. -/
  | malformed
  /-- Some switches, and perhaps a setting with or without its value. -/
  | options (switches : List Switch) (setting : Option (Setting × Option Text))
  /-- Some switches, and letters behind them that belong to nothing. -/
  | strayed (switches : List Switch)
deriving Repr, DecidableEq

namespace Argument

/-- A letter that no option is known by, behind some switches. -/
def ofUnknownLetter (dialect : Dialect) (switches : List Switch) (letter : Char) : Argument :=
  match dialect with
  | .earlier => malformed
  | .later => if letter = '-' ∨ letter = '=' then malformed else strayed switches

/-- The value of a setting whose letter stands behind switches, from what is behind that letter. -/
def gluedValue? (dialect : Dialect) : Text → Option Text
  | [] => none
  | c :: rest => if dialect = .later ∧ c = '=' then some rest else some (c :: rest)

def ofLetters (dialect : Dialect) (switches : List Switch) : Text → Argument
  | [] => options switches none
  | letter :: rest =>
    match names.lookup ['-', letter] with
    | none => ofUnknownLetter dialect switches letter
    | some (.switch switch) => ofLetters dialect (switches ++ [switch]) rest
    | some (.setting setting) => options switches (some (setting, gluedValue? dialect rest))

/-- A choice by its name with what is given behind it, if there is anything. A switch may be given
nothing but more letters, and only where letters may stand. -/
def ofChoice (dialect : Dialect) (letters : Bool) (given : Option Text) : Choice → Argument
  | .setting setting => options [] (some (setting, given))
  | .switch switch =>
    match given with
    | none => options [switch] none
    | some more =>
      if letters && !more.isEmpty then ofLetters dialect [switch] more else malformed

/-- Whether a text is a negative number, whole or with a decimal point; a line feed may follow. -/
def isNegativeNumber (t : Text) : Bool :=
  let isDigit (c : Char) : Bool := (Text.decimalValue? c).isSome
  let isEnd (t : Text) : Bool := t.isEmpty || t == ['\n']
  match t with
  | '-' :: number =>
    match number.span isDigit with
    | (_, '.' :: places) =>
      let (places, behind) := places.span isDigit
      !places.isEmpty && isEnd behind
    | (whole, behind) => !whole.isEmpty && isEnd behind
  | _ => false

/-- The options whose names start with a text. -/
def startingWith (start : Text) : List (Text × Choice) :=
  names.filter fun (name, _) => Text.startsWith start name

/-- An argument that starts with two dashes and is no whole name. -/
def ofShortened? (dialect : Dialect) (t : Text) : Option Argument :=
  let (start, given) := match Text.cutAt? '=' t with
    | some (start, given) => (start, some given)
    | none => (t, none)
  match startingWith start with
  | [] => none
  | [(_, choice)] => some (ofChoice dialect false given choice)
  | _ => some ambiguous

/-- An argument that starts with one dash and is no whole name. -/
def ofLetter? (dialect : Dialect) : Text → Option Argument
  | _ :: letter :: rest => (names.lookup ['-', letter]).map (ofChoice dialect true (some rest))
  | _ => none

def ofText (dialect : Dialect) (t : Text) : Argument :=
  match t with
  | [] | ['-'] => value
  | '-' :: second :: _ =>
    let byLetter := second ≠ '-'
    match names.lookup t with
    | some choice => ofChoice dialect byLetter none choice
    | none =>
      let whole := (Text.cutAt? '=' t).bind fun (name, given) =>
        (names.lookup name).map (ofChoice dialect (byLetter && dialect = .earlier) (some given))
      let found := whole.or (if byLetter then ofLetter? dialect t else ofShortened? dialect t)
      match found with
      | some argument => argument
      | none => if isNegativeNumber t ∨ t.contains ' ' then value else unknown
  | _ => value

/-- All arguments; those behind two dashes alone are values, and so are the dashes. -/
def ofTexts (dialect : Dialect) : List Text → List (Text × Argument)
  | [] => []
  | t :: rest =>
    if t = ['-', '-'] then (t, unknown) :: rest.map (·, value)
    else (t, ofText dialect t) :: ofTexts dialect rest

end Argument

/-- What a setting has been given: a value, or nothing, which serves where no value is needed. -/
inductive Given (α : Type)
  | nothing
  | value (x : α)
deriving Repr, DecidableEq

namespace Given

def value? {α : Type} : Given α → Option α
  | nothing => none
  | value x => some x

/-- What a text right behind an option gives. -/
def ofText (dialect : Dialect) (t : Text) : Given Text :=
  if dialect = .earlier ∧ t = ['-', '-'] then nothing else value t

end Given

/-- What has been chosen. -/
structure Choices where
  input : Option (Given Text) := none
  format : Option Format := none
  output : Option (Given Text) := none
  template : Option (Given Text) := none
  dayMinutes : Given Int := .value 480
  logFile : Option Text := none
  pdf : Bool := false
  skipInvalid : Bool := false
  keep : Bool := false
  dump : Bool := false
  verbose : Bool := false
  /-- Whether there was an argument that belongs to nothing. -/
  stray : Bool := false

/-- Why there is nothing to be run: help was asked for, or the arguments are wrong. -/
inductive Refusal
  | help
  | wrong
deriving Repr, DecidableEq

namespace Choices

def throwSwitch (choices : Choices) : Switch → Except Refusal Choices
  | .help => .error .help
  | .pdf => .ok { choices with pdf := true }
  | .skipInvalid => .ok { choices with skipInvalid := true }
  | .keep => .ok { choices with keep := true }
  | .dump => .ok { choices with dump := true }
  | .verbose => .ok { choices with verbose := true }

/-- The choices with some switches thrown one after the other. -/
def throwSwitches (choices : Choices) (switches : List Switch) : Except Refusal Choices :=
  switches.foldlM throwSwitch choices

/-- The choices with a setting made. A format or a log file that is given as nothing is as if it
were not given. -/
def set (choices : Choices) (setting : Setting) (given : Given Text) : Except Refusal Choices :=
  match setting with
  | .input => .ok { choices with input := some given }
  | .output => .ok { choices with output := some given }
  | .template => .ok { choices with template := some given }
  | .logFile => .ok { choices with logFile := given.value? }
  | .format =>
    match given with
    | .nothing => .ok { choices with format := none }
    | .value name =>
      match Format.ofName? name with
      | some format => .ok { choices with format := some format }
      | none => .error .wrong
  | .dayMinutes =>
    match given with
    | .nothing => .ok { choices with dayMinutes := .nothing }
    | .value number =>
      match Text.integer? number with
      | some dayMinutes => .ok { choices with dayMinutes := .value dayMinutes }
      | none => .error .wrong

/-- Goes through the arguments from the first to the last. -/
def choose (dialect : Dialect) (choices : Choices) : List (Text × Argument) → Except Refusal Choices
  | [] => .ok choices
  | (_, .malformed) :: _ | (_, .ambiguous) :: _ => .error .wrong
  | (_, .value) :: rest | (_, .unknown) :: rest => choose dialect { choices with stray := true } rest
  | (_, .strayed switches) :: rest => do
    choose dialect { (← choices.throwSwitches switches) with stray := true } rest
  | (_, .options switches none) :: rest => do choose dialect (← choices.throwSwitches switches) rest
  | (_, .options switches (some (setting, some given))) :: rest => do
    choose dialect (← (← choices.throwSwitches switches).set setting (.ofText dialect given)) rest
  | (_, .options switches (some (setting, none))) :: (value, .value) :: rest => do
    choose dialect (← (← choices.throwSwitches switches).set setting (.value value)) rest
  | (_, .options _ (some (_, none))) :: _ => .error .wrong

/-- Whether an argument is cut too short for any run. -/
def isAmbiguous : Text × Argument → Bool
  | (_, .ambiguous) => true
  | _ => false

/-- The choices of a row of arguments, and the input, which there has to be. -/
def ofArguments (dialect : Dialect) (arguments : List Text) :
    Except Refusal (Given Text × Choices) := do
  let arguments := Argument.ofTexts dialect arguments
  if arguments.any isAmbiguous then throw .wrong
  let choices ← choose dialect {} arguments
  match choices.input, choices.stray with
  | some input, false => return (input, choices)
  | _, _ => throw .wrong

end Choices

end Agenda.CommandLine
