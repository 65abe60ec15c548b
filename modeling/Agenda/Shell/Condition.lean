import Agenda.Shell.Numeral

/-!
# Conditions in scripts

The expressions of `test`: questions about texts, numbers and files, and their combinations. A word
is read for what it may be where it stands: a sign between two words wins over a sign before one,
and a sign that nothing follows is a word.
-/

namespace Agenda.Shell.Condition

/-- Whoever answers questions about files: what a letter asks about the file at a path, and how two
files compare. In the larger language two equals signs are one. -/
structure Informant where
  about : Char → Text → Bool
  compare : Text → Text → Text → Bool
  larger : Bool := false

inductive Fault
  | missingOperand (sign : Text)
  | noNumber (word : Text)
  /-- The condition ends with a word, but there is one behind it. -/
  | unexpected (word next : Text)
  | unclosed

/-- What is wrong, in words. -/
def Fault.message : Fault → Text
  | missingOperand sign => sign ++ ": argument expected"
  | noNumber word => "Illegal number: " ++ word
  | unexpected word _ => word ++ ": unexpected operator"
  | unclosed => "closing paren expected"

/-- The words of a short condition behind an exclamation mark that turns all of it around. -/
def turnedWords (words : List Text) : List Text :=
  match words with
  | [['!'], _, _, _] => words.tail
  | words => words

/-- What is wrong with a condition of some words, in the words of the larger language. -/
def Fault.largeMessage (words : List Text) : Fault → Text
  | noNumber word => word ++ ": integer expression expected"
  | fault =>
    match turnedWords words, fault with
    | [a, _], _ => a ++ ": unary operator expected"
    | [_, b, _], _ => b ++ ": binary operator expected"
    | _, missingOperand _ => "argument expected"
    | _, _ => "too many arguments"

/-- What is wrong with a condition of some words, in the words of the tool. -/
def Fault.toolMessage (words : List Text) (fault : Fault) : Text :=
  let marked (t : Text) : Text := "‘" ++ t ++ "’"
  match turnedWords words, fault with
  | _, noNumber word => "invalid integer " ++ marked word
  | [_, b], _ => "missing argument after " ++ marked b
  | [_, b, _], _ => marked b ++ ": binary operator expected"
  | _, missingOperand sign => "missing argument after " ++ marked sign
  | _, unexpected _ next => "extra argument " ++ marked next
  | _, unclosed => "')' expected"

/-- What a word can be besides an operand. -/
inductive Sign
  | one (letter : Char)
  | two (sign : Text)
  | not
  | and
  | or
  | opening
  | closing
deriving DecidableEq

def twoSigns : List Text := ["=", "!=", "<", ">", "-eq", "-ne", "-lt", "-le", "-gt", "-ge", "-nt",
  "-ot", "-ef"]

/-- Whether a sign between two words is about their numbers. -/
def isNumeric (sign : Text) : Bool :=
  [("-eq" : Text), "-ne", "-lt", "-le", "-gt", "-ge"].contains sign

def sign? (larger : Bool) (word : Text) : Option Sign :=
  if twoSigns.contains word ∨ (larger ∧ word = "==".toList) then some (.two word)
  else match word with
    | ['!'] => some .not
    | ['-', 'a'] => some .and
    | ['-', 'o'] => some .or
    | ['('] => some .opening
    | [')'] => some .closing
    | ['-', c] => if "rwxefdcbpugksthznOGLS".toList.contains c then some (.one c) else none
    | _ => none

/-- What the first of some words is where it stands; an operand is no sign. -/
def signAt? (larger : Bool) : List Text → Option Sign
  | [] => none
  | word :: rest =>
    match sign? larger word, rest with
    | some .opening, [] => none
    | some (.one _), [] => none
    | some (.one letter), next :: _ :: _ =>
      match sign? larger next with
      | some (.two _) => none
      | _ => some (.one letter)
    | sign, _ => sign

def integer (word : Text) : Except Fault Int :=
  match numeral? word with
  | some n =>
    if -9223372036854775808 ≤ n ∧ n ≤ 9223372036854775807 then .ok n else .error (.noNumber word)
  | none => .error (.noNumber word)

/-- The answer to a question with a sign between two words. -/
def compared (informant : Informant) (a sign b : Text) : Except Fault Bool :=
  let numbers (answer : Int → Int → Bool) : Except Fault Bool := do
    return answer (← integer a) (← integer b)
  let table : List (Text × Except Fault Bool) := [("=", .ok (a == b)), ("==", .ok (a == b)),
    ("!=", .ok (a != b)), ("<", .ok (decide (a < b))), (">", .ok (decide (b < a))),
    ("-eq", numbers fun m n => m == n), ("-ne", numbers fun m n => m != n),
    ("-lt", numbers fun m n => decide (m < n)), ("-le", numbers fun m n => decide (m ≤ n)),
    ("-gt", numbers fun m n => decide (n < m)), ("-ge", numbers fun m n => decide (n ≤ m))]
  (table.lookup sign).getD (.ok (informant.compare a sign b))

/-- The answer to a question with a letter behind a dash. -/
def asked (informant : Informant) (letter : Char) (word : Text) : Except Fault Bool :=
  match letter with
  | 'n' => .ok !word.isEmpty
  | 'z' => .ok word.isEmpty
  | 't' => if informant.larger then .ok false else (integer word).map fun _ => false
  | letter => .ok (informant.about letter word)

mutual

/-- Answers what some words start with, where `sign` is what the first of them is. The words that
are given back start with the last one that was read. -/
def primary (informant : Informant) :
    Nat → Option Sign → List Text → Except Fault (Bool × List Text)
  | 0, _, words => .ok (false, words)
  | fuel + 1, sign, words =>
    match sign, words with
    | _, [] => .ok (false, [])
    | some .opening, _ :: rest =>
      if signAt? informant.larger rest = some .closing then .ok (false, rest)
      else do
        let (answer, last) ← either informant fuel (signAt? informant.larger rest) rest
        if signAt? informant.larger last.tail = some .closing then return (answer, last.tail)
        else throw .unclosed
    | some (.one letter), word :: rest =>
      match rest with
      | [] => .error (.missingOperand word)
      | operand :: _ => (asked informant letter operand).map (·, rest)
    | _, a :: rest =>
      match signAt? informant.larger rest, rest with
      | some (.two sign), [_] => .error (.missingOperand sign)
      | some (.two sign), _ :: b :: others =>
        (compared informant a sign b).map (·, b :: others)
      | _, _ => .ok (!a.isEmpty, a :: rest)

/-- Answers a question that may be turned into its opposite. -/
def turned (informant : Informant) :
    Nat → Option Sign → List Text → Except Fault (Bool × List Text)
  | 0, _, words => .ok (false, words)
  | fuel + 1, sign, words =>
    match sign, words with
    | some .not, _ :: rest => do
      let (answer, last) ← turned informant fuel (signAt? informant.larger rest) rest
      return (!answer, if rest.isEmpty then words else last)
    | sign, words => primary informant fuel sign words

/-- Answers questions of which all have to be answered with yes. -/
def all (informant : Informant) :
    Nat → Option Sign → List Text → Except Fault (Bool × List Text)
  | 0, _, words => .ok (false, words)
  | fuel + 1, sign, words => do
    let (first, last) ← turned informant fuel sign words
    if signAt? informant.larger last.tail = some .and then
      let rest := last.drop 2
      let (second, last) ← all informant fuel (signAt? informant.larger rest) rest
      return (first && second, last)
    else return (first, last)

/-- Answers questions of which one has to be answered with yes. -/
def either (informant : Informant) :
    Nat → Option Sign → List Text → Except Fault (Bool × List Text)
  | 0, _, words => .ok (false, words)
  | fuel + 1, sign, words => do
    let (first, last) ← all informant fuel sign words
    if signAt? informant.larger last.tail = some .or then
      let rest := last.drop 2
      let (second, last) ← either informant fuel (signAt? informant.larger rest) rest
      return (first || second, last)
    else return (first, last)

end

/-- Whether a whole condition holds. Of three words with a sign in the middle the first is an
operand, whatever it looks like; otherwise three or four words may be in parentheses, or have an
exclamation mark before them, which all of them are `negated` by. -/
def holdsFrom (informant : Informant) (negated : Bool) (words : List Text) : Except Fault Bool :=
  let evaluate (sign : Option Sign) (words : List Text) : Except Fault Bool := do
    let (answer, last) ← either informant (5 * words.length + 5) sign words
    match last with
    | word :: next :: _ => throw (.unexpected word next)
    | _ => return answer != negated
  let isShort := words.length = 3 ∨ words.length = 4
  match words with
  | [] => .ok negated
  | [a, b] =>
    match informant.larger, sign? informant.larger a with
    | true, some .not | true, some (.one _) | false, _ =>
      evaluate (signAt? informant.larger words) words
    | true, _ => .error (.unexpected a b)
  | [a, sign, b] =>
    match sign? informant.larger sign with
    | some (.two _) => evaluate none words
    | _ =>
      let joins : Bool := sign = "-a".toList ∨ sign = "-o".toList
      if a = ['('] ∧ b = [')'] then evaluate (signAt? informant.larger [sign]) [sign]
      else if informant.larger ∧ joins then
        .ok ((if sign = "-a".toList then !a.isEmpty && !b.isEmpty
          else !a.isEmpty || !b.isEmpty) != negated)
      else if a = ['!'] then holdsFrom informant true [sign, b]
      else if informant.larger then .error (.unexpected sign b)
      else evaluate (signAt? informant.larger words) words
  | a :: rest =>
    if isShort ∧ a = ['('] ∧ rest.getLast? = some [')'] then
      evaluate (signAt? informant.larger rest.dropLast) rest.dropLast
    else if isShort ∧ a = ['!'] then holdsFrom informant true rest
    else evaluate (signAt? informant.larger words) words
termination_by words.length

def holds (informant : Informant) (words : List Text) : Except Fault Bool :=
  holdsFrom informant false words

end Agenda.Shell.Condition
