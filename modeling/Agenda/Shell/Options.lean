import Agenda.Text.Basic
import Agenda.Text.Digit

/-!
# Options of tools

Which options a tool knows, how they are read from the words it is given, and what is said about
words that cannot be read. Options may stand anywhere; two dashes end them.
-/

namespace Agenda.Shell

/-- How a tool was called the wrong way. -/
inductive Misuse
  | unknownLetter (letter : Char)
  | letterWithoutValue (letter : Char)
  | unknownWord (word : Text)
  | unclearWord (word : Text) (choices : List Text)
  | wordWithoutValue (word : Text)
  | wordWithValue (word : Text)
  /-- There are too few operands; the last of them is given, if there is one. -/
  | fewOperands (last : Option Text)
  | excessOperand (operand : Text)
  /-- A value of an option makes no sense. -/
  | badValue (what value : Text)
  /-- Something else, said in some lines; after some of those the tool tells where help is. -/
  | other (lines : List Text) (hints : Bool)

namespace Misuse

def marked (t : Text) : Text := "‘" ++ t ++ "’"

/-- What is said about a wrong call in its first line. -/
def words : Misuse → Text
  | unknownLetter letter => "invalid option -- '" ++ [letter, '\x27']
  | letterWithoutValue letter => "option requires an argument -- '" ++ [letter, '\x27']
  | unknownWord word => "unrecognized option '--" ++ word ++ "'"
  | unclearWord word choices => "option '--" ++ word ++ "' is ambiguous; possibilities:" ++
      (choices.map fun choice => (" '--" ++ choice ++ "'" : Text)).flatten
  | wordWithoutValue word => "option '--" ++ word ++ "' requires an argument"
  | wordWithValue word => "option '--" ++ word ++ "' doesn't allow an argument"
  | fewOperands none => "missing operand"
  | fewOperands (some last) => "missing operand after " ++ marked last
  | excessOperand operand => "extra operand " ++ marked operand
  | badValue what value => "invalid " ++ what ++ ": " ++ marked value
  | other lines _ => lines.headD []

/-- The lines behind the first one. -/
def others : Misuse → List Text
  | other lines _ => lines.tail
  | _ => []

/-- Whether the tool tells where help is. -/
def hints : Misuse → Bool
  | badValue _ _ => false
  | other _ hints => hints
  | _ => true

end Misuse

structure Known where
  /-- Letters that stand alone. -/
  plain : Text := []
  /-- Letters that take a value: the rest of their word, or the word behind it. -/
  valued : Text := []
  /-- Letters that take the rest of their word, which may be empty. -/
  trailing : Text := []
  words : List (Text × Char) := []
  /-- Whether the first operand ends the options. -/
  leading : Bool := false
  /-- Whether a number behind a dash is the value of a letter. -/
  numbered : Bool := false
  /-- The letter that a number behind a dash is the value of. -/
  numberLetter : Char := 'n'
  /-- What such numbers are written with. -/
  numberSigns : Text := "0123456789"
  /-- Whether a number behind a dash is the first operand. -/
  negative : Bool := false

/-- The options that a tool was given, each with its value. -/
abbrev Options := List (Char × Text)

namespace Options

def has (options : Options) (letter : Char) : Bool := options.any (·.1 == letter)

def value? (options : Options) (letter : Char) : Option Text := options.reverse.lookup letter

def values (options : Options) (letter : Char) : List Text :=
  options.filterMap fun (c, value) => if c = letter then some value else none

def lastOf (options : Options) (letters : Text) : Option Char :=
  (options.reverse.find? fun option => letters.contains option.1).map (·.1)

end Options

namespace Known

/-- The options in a word of letters, and the letter that still needs a value. -/
def letters (known : Known) : Text → Except Misuse (Options × Option Char)
  | [] => .ok ([], none)
  | c :: rest =>
    if known.plain.contains c then
      (known.letters rest).map fun (options, waiting) => ((c, []) :: options, waiting)
    else if known.valued.contains c then
      .ok (if rest.isEmpty then ([], some c) else ([(c, rest)], none))
    else if known.trailing.contains c then .ok ([(c, rest)], none)
    else .error (.unknownLetter c)

/-- The letter that a long word stands for: that of the word, or of all words that start like it. -/
def letterOf (known : Known) (name : Text) : Except Misuse Char :=
  match known.words.lookup name with
  | some letter => .ok letter
  | none =>
    match known.words.filter fun (word, _) => Text.startsWith name word with
    | [] => .error (.unknownWord name)
    | (word, letter) :: others =>
      if others.all (·.2 = letter) then .ok letter
      else .error (.unclearWord name (word :: others.map (·.1)))

/-- The option that a long word stands for, and its letter if it still needs a value. -/
def word (known : Known) (t : Text) : Except Misuse (Options × Option Char) :=
  let (name, value) : Text × Option Text := match Text.cutAt? '=' t with
    | some (name, value) => (name, some value)
    | none => (t, none)
  match known.letterOf name, value with
  | .error (.unknownWord _), _ => .error (.unknownWord t)
  | .error misuse, _ => .error misuse
  | .ok letter, some value =>
    if known.plain.contains letter then .error (.wordWithValue name)
    else .ok ([(letter, value)], none)
  | .ok letter, none =>
    if known.valued.contains letter then .ok ([], some letter) else .ok ([(letter, [])], none)

/-- The options among some words, and the operands. The word behind one whose letter is `waiting` is
its value. -/
def read (known : Known) : Option (Char × Misuse) → List Text →
    Except Misuse (Options × List Text)
  | none, [] => .ok ([], [])
  | some (_, misuse), [] => .error misuse
  | some (letter, _), value :: rest =>
    (known.read none rest).map fun (options, operands) => ((letter, value) :: options, operands)
  | none, first :: rest =>
    let goesOn (found : Options × Option Char) (misuse : Char → Misuse) :
        Except Misuse (Options × List Text) :=
      (known.read (found.2.map fun letter => (letter, misuse letter)) rest).map
        fun (options, operands) => (found.1 ++ options, operands)
    match first with
    | ['-', '-'] => .ok ([], rest)
    | '-' :: '-' :: t =>
      let whole (letter : Char) : Text :=
        ((known.words.find? fun (word, own) => own = letter && Text.startsWith t word).map
          (·.1)).getD t
      (known.word t).bind fun found =>
        goesOn found fun letter => .wordWithoutValue (whole letter)
    | '-' :: c :: others =>
      if known.negative ∧ (c.isDigit ∨ c = '.') then .ok ([], first :: rest)
      else if known.numbered ∧ c.isDigit ∧ others.all known.numberSigns.contains then
        goesOn ([(known.numberLetter, c :: others)], none) .letterWithoutValue
      else (known.letters (c :: others)).bind fun found => goesOn found .letterWithoutValue
    | operand =>
      if known.leading then .ok ([], operand :: rest)
      else
        (known.read none rest).map fun (options, operands) => (options, operand :: operands)

/-- The options among some words, and the operands. -/
def split (known : Known) (arguments : List Text) : Except Misuse (Options × List Text) :=
  known.read none arguments

/-- The options among some words, and the operands, if they can be read. -/
def split? (known : Known) (arguments : List Text) : Option (Options × List Text) :=
  (known.split arguments).toOption

end Known

end Agenda.Shell
