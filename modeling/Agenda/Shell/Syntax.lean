import Agenda.Text.Basic

/-!
# Scripts

The commands that a script is made of. Scripts are what a tool is given as, or called with, where
the tool is a program of the user's own. The words of a command are kept as they are written, in
parts; what a part stands for is found only when the command is run.
-/

namespace Agenda.Shell

/-- Where a pattern is looked for in a value. -/
inductive Extent
  | once
  | everywhere
  | atStart
  | atEnd
deriving Repr, DecidableEq

/-- What is done to the value of a parameter. With `orEmpty` an empty value counts as none. -/
inductive Change
  | none
  /-- The value that something is added to. -/
  | base
  | length
  | default (orEmpty : Bool)
  | assign (orEmpty : Bool)
  | instead (orEmpty : Bool)
  | demand (orEmpty : Bool)
  | dropEnd (longest : Bool)
  | dropStart (longest : Bool)
  /-- The characters from one place on. -/
  | slice
  /-- What a pattern finds is replaced: once or everywhere, at the start or at the end. -/
  | replace (extent : Extent)
  /-- The first letter, or all of them, in capitals or in small letters. -/
  | recase (capital all : Bool)
  /-- The value as a script writes it, or with its escapes replaced. -/
  | quote
  | unescape
  /-- The command that makes the parameter what it is, and the letters for that. -/
  | describe
  | letters
  /-- The names of all variables that start like this one. -/
  | names
  /-- The value of the parameter that the value names. -/
  | indirect
  /-- Something that makes no sense. -/
  | malformed
deriving Repr, DecidableEq

/-- What can be opened and not be closed. -/
inductive Gap
  | quote
  | ticks
  | script
  | brace
  | sum
deriving Repr, DecidableEq

/-- A part of a word. A quoted part is neither split at blanks nor read as a pattern. -/
inductive Part
  | plain (quoted : Bool) (t : Text)
  | parameter (quoted : Bool) (name : Text) (change : Change) (argument : Text)
  | output (quoted : Bool) (script : Text)
  | sum (quoted : Bool) (expression : Text)
  /-- A file from which the output of a script can be read. -/
  | reading (script : Text)
  /-- Something that was opened and not closed. -/
  | unfinished (what : Gap)
deriving Repr, DecidableEq

/-- A part with its value kept in one piece. -/
def Part.whole : Part → Part
  | parameter _ name change argument => parameter true name change argument
  | output _ script => output true script
  | sum _ expression => sum true expression
  | part => part

/-- Whether a part is all parameters, or all elements of a list, each a field of its own. -/
def Part.isSeveral : Part → Bool
  | parameter _ name _ _ => name == ['@'] || Text.endsWith "[@]" name
  | _ => false

abbrev Word := List Part

/-- Where a stream of a command leads. -/
inductive Direction
  | read
  | write
  | append
  /-- The target is written even if files that exist are kept. -/
  | renew
  /-- The target is read and written, and keeps what it holds. -/
  | update
  | same
  /-- The target is itself what is read. -/
  | inner
deriving Repr, DecidableEq

/-- A redirection of one of the streams of a command. -/
structure Redirect where
  stream : Nat
  direction : Direction
  target : Word
deriving Repr, DecidableEq

inductive Token
  | word (word : Word)
  | operator (t : Text)
  /-- The number of a stream directly before a redirection. -/
  | stream (n : Nat)
  /-- An expression between double parentheses. -/
  | sum (expression : Text)
  /-- The name before a list of values in parentheses, which may be added to those it has. -/
  | list (name : Text) (adds : Bool)
deriving Repr, DecidableEq

inductive Question
  | isFilled (word : Word)
  | one (letter : Char) (word : Word)
  | two (sign : Text) (first second : Word)
  | not (question : Question)
  | both (first second : Question)
  | either (first second : Question)

/-- What comes behind an arm of a choice. -/
inductive ArmEnd
  | stop
  /-- The next arm is run as well. -/
  | fallThrough
  /-- The patterns of the next arms are tried as well. -/
  | goOn
deriving Repr, DecidableEq

inductive Command
  | nothing
  /-- Words with assignments before them; `linesLeft` line ends come behind them in the script. -/
  | simple (linesLeft : Nat) (assignments : List (Text × Word)) (words : List Word)
  | redirected (body : Command) (redirects : List Redirect)
  | sequence (first second : Command)
  | both (first second : Command)
  | either (first second : Command)
  | negated (body : Command)
  | pipe (first second : Command)
  | background (body : Command)
  | subshell (body : Command)
  | branch (condition yes no : Command)
  /-- A loop that ends when its condition holds, or when it does not. -/
  | loop (endsOn : Bool) (condition body : Command)
  | each (name : Text) (words : Option (List Word)) (body : Command)
  | choose (word : Word) (arms : List (List Word × Command × ArmEnd))
  | define (name : Text) (body : Command)
  /-- What is left of a script, which is read line by line. -/
  | lines (tokens : List Token)
  | ask (question : Question)
  | sum (expression : Text)
  /-- A loop with an expression to start with, one for its condition and one for each step. -/
  | count (start condition step : Text) (body : Command)
  | setList (name : Text) (adds : Bool) (values : List Word)

/-- The text of a word that has no quotes and nothing to be found out. -/
def literal? : Word → Option Text
  | [.plain false t] => some t
  | _ => none

end Agenda.Shell
