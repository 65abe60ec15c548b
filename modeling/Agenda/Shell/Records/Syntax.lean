import Agenda.Shell.Records.Value
import Agenda.Text.Basic
import Agenda.Text.Substitute

/-!
# Record scripts and their tokens

The syntax of the language of `awk`: rules, each of which says what is done with the records that it
applies to, and functions. What is done is a tree of steps, which calculate with formulas.

A record script cut into numbers, texts, patterns, names and signs. A slash starts a pattern where
no operand stands before it.
-/

namespace Agenda.Shell.Records

/-! ## Record scripts -/

/-- What a line is read from. -/
inductive Source (φ : Type)
  | records
  | file (path : φ)
  | command (script : φ)

inductive Formula
  | number (x : Float)
  | text (t : Text)
  /-- A pattern, which asks whether the record has it. -/
  | pattern (t : Text)
  | name (name : Text)
  | element (list : Text) (index : List Formula)
  | field (index : Formula)
  /-- An assignment; the sign is that of the calculation that makes the new value of the old one. -/
  | assign (sign : Text) (place value : Formula)
  | choice (condition yes no : Formula)
  | both (first second : Formula)
  | either (first second : Formula)
  | binary (sign : Text) (first second : Formula)
  | fits (negated : Bool) (subject pattern : Formula)
  | holds (index : List Formula) (list : Text)
  | not (inside : Formula)
  | negative (inside : Formula)
  | plain (inside : Formula)
  | group (inside : Formula)
  /-- A place that is counted up or down; the value is that before or behind it. -/
  | count (before up : Bool) (place : Formula)
  | call (name : Text) (arguments : List Formula)
  | readLine (place : Option Formula) (source : Source Formula)

/-- Where something is printed to. -/
inductive Goal
  | output
  | file (append : Bool) (path : Formula)
  | command (script : Formula)

inductive Step
  | nothing
  | evaluate (formula : Formula)
  | print (values : List Formula) (goal : Goal)
  | format (values : List Formula) (goal : Goal)
  | sequence (first second : Step)
  | branch (condition : Formula) (yes no : Step)
  | loop (condition : Formula) (body behind : Step)
  | each (name list : Text) (body : Step)
  | delete (list : Text) (index : Option (List Formula))
  | next
  | nextFile
  | exit (status : Option Formula)
  | breaks
  | continues
  | gives (value : Option Formula)

/-- When a rule applies. -/
inductive Scope
  | start
  | stop
  | always
  | on (condition : Formula)
  | between (first last : Formula)

structure Rule where
  scope : Scope
  body : Step

structure Function where
  parameters : List Text
  body : Step

structure Script where
  rules : List Rule
  functions : List (Text × Function)

/-! ## Tokens of record scripts -/

inductive Token
  | number (digits : Text)
  | text (t : Text)
  | pattern (t : Text)
  | name (t : Text)
  /-- A name with a parenthesis right behind it. -/
  | caller (t : Text)
  | word (t : Text)
  | sign (t : Text)
  | lineEnd
deriving DecidableEq

def words : List Text := ["BEGIN", "END", "function", "func", "if", "else", "while", "for", "do",
  "break", "continue", "next", "nextfile", "exit", "return", "delete", "in", "getline", "print",
  "printf"]

/-- The functions of the language. -/
def builtins : List Text := ["length", "substr", "index", "split", "sub", "gsub", "match",
  "sprintf", "sqrt", "int", "tolower", "toupper", "system", "close", "fflush", "srand", "exp", "log",
  "sin", "cos", "atan2"]

def longSigns : List Text := ["&&", "||", "==", "!=", "<=", ">=", "+=", "-=", "*=", "/=", "%=", "^=",
  "++", "--", ">>", "!~"]

def shortSigns : Text := "\x7b\x7d()[];,+-*/%^!><|?:~$=".toList

def Token.endsOperand : Token → Bool
  | number _ | text _ | pattern _ | name _ => true
  | word t => builtins.contains t
  | sign t => t == [')'] || t == [']'] || t == ['$'] || t == "++".toList || t == "--".toList
  | caller _ | lineEnd => false

/-- A text up to the mark that ends it, and the number of characters up to behind that mark.
Backslashes make other characters of those behind them. -/
def quotedAt : Nat → Text → Text × Nat
  | _, [] => ([], 0)
  | skip + 1, _ :: rest =>
    let (t, length) := quotedAt skip rest
    (t, length + 1)
  | 0, '\x22' :: _ => ([], 1)
  | 0, '\\' :: rest =>
    let (made, skip) : Text × Nat := match rest with
      | [] => (['\\'], 0)
      | '\n' :: _ => ([], 1)
      | c :: _ =>
        if isOctal c then
          let octals := octalDigits 3 rest
          ([octal octals], octals.length)
        else if c = '\x22' ∨ c = '/' ∨ c = '\\' then ([c], 1)
        else match escaped? c with
          | some d => ([d], 1)
          | none => (['\\', c], 1)
    let (t, length) := quotedAt skip rest
    (made ++ t, length + 1)
  | 0, c :: rest =>
    let (t, length) := quotedAt 0 rest
    (c :: t, length + 1)

/-- A pattern up to the slash that ends it, and the number of characters up to behind that slash.
Within brackets a slash is plain. -/
def patternAt : (bracket : Bool) → Nat → Text → Text × Nat
  | _, _, [] => ([], 0)
  | bracket, skip + 1, c :: rest =>
    let (t, length) := patternAt bracket skip rest
    (c :: t, length + 1)
  | _, 0, '\\' :: '/' :: rest =>
    let (t, length) := patternAt false 0 rest
    ('/' :: t, length + 2)
  | bracket, 0, '\\' :: rest =>
    let (t, length) := patternAt bracket 1 rest
    ('\\' :: t, length + 1)
  | false, 0, '/' :: _ => ([], 1)
  | bracket, 0, c :: rest =>
    let bracket := if c = '[' then true else if c = ']' then false else bracket
    let (t, length) := patternAt bracket 0 rest
    (c :: t, length + 1)

def isNameSign (c : Char) : Bool := c.isAlphanum || c == '_'

/-- The token at the start of a text that does not start with a gap, and the number of its
characters; `operand` says whether an operand stands before it. -/
def tokenAt? (operand : Bool) (t : Text) : Option (Token × Nat) :=
  match t with
  | [] => none
  | '\n' :: _ => some (.lineEnd, 1)
  | '\x22' :: rest =>
    let (t, length) := quotedAt 0 rest
    some (.text t, length + 1)
  | c :: rest =>
    if c = '/' ∧ !operand then
      let (t, length) := patternAt false 0 rest
      some (.pattern t, length + 1)
    else if c.isDigit ∨ (c = '.' ∧ (rest.headD '.').isDigit) then
      (decimalAt? t).map fun (_, behind) =>
        let length := t.length - behind.length
        (.number (t.take length), length)
    else if isNameSign c then
      let name := t.takeWhile isNameSign
      let token : Token :=
        if words.contains name ∨ builtins.contains name then .word name
        else if (t.drop name.length).head? = some '(' then .caller name
        else .name name
      some (token, name.length)
    else match longSigns.find? fun sign => Text.startsWith sign t with
      | some sign => some (.sign sign, sign.length)
      | none => if shortSigns.contains c then some (.sign [c], 1) else none

/-- The tokens of a script; `skip` characters have been read already. -/
def tokensFrom? : (operand : Bool) → Nat → Text → Option (List Token)
  | _, _, [] => some []
  | operand, skip + 1, _ :: rest => tokensFrom? operand skip rest
  | operand, 0, c :: rest =>
    if c = ' ' ∨ c = '\t' ∨ c = '\r' then tokensFrom? operand 0 rest
    else if c = '#' then
      tokensFrom? operand (rest.takeWhile (· ≠ '\n')).length rest
    else if c = '\\' ∧ rest.head? = some '\n' then tokensFrom? operand 1 rest
    else match tokenAt? operand (c :: rest) with
      | some (token, length) =>
        (tokensFrom? token.endsOperand (length - 1) rest).map (token :: ·)
      | none => none

def tokens? (t : Text) : Option (List Token) := tokensFrom? false 0 t

end Agenda.Shell.Records
