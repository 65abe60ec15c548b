import Agenda.Shell.Expression.Reader
import Agenda.Shell.Printing
import Agenda.Text.Substitute

/-!
# Calculations in scripts

What `expr` makes of its arguments: sums and comparisons of numerals, choices between values, and
questions about texts.
-/

namespace Agenda.Shell.Calculation

/-- Whether a value counts as nothing: it is empty or a zero. -/
def isNothing (value : Text) : Bool := value.isEmpty || numeral? value == some 0

/-- The operators that bind with some strength, from those that bind least. -/
def operators : Nat → List Text
  | 0 => ["|"]
  | 1 => ["&"]
  | 2 => ["=", "==", "!=", "<", "<=", ">", ">="]
  | 3 => ["+", "-"]
  | 4 => ["*", "/", "%"]
  | _ => [":"]

inductive Fault
  | nothing
  | endsBehind (word : Text)
  | unexpected (word : Text)
  | openBehind (word : Text)
  | closes
  | noInteger
  | zeroDivision
  | badPattern (fault : Expression.Fault)

def Fault.words : Fault → Text
  | nothing => "missing operand"
  | endsBehind word => "syntax error: missing argument after ‘" ++ word ++ "’"
  | unexpected word => "syntax error: unexpected argument ‘" ++ word ++ "’"
  | openBehind word => "syntax error: expecting ')' after ‘" ++ word ++ "’"
  | closes => "syntax error: unexpected ')'"
  | noInteger => "non-integer argument"
  | zeroDivision => "division by zero"
  | badPattern fault => fault.words

/-- How much of a text fits a pattern at its start: the first group if the pattern has one, or else
the number of characters. -/
def fitting (t pattern : Text) : Except Fault Text := do
  let e ← (Expression.read {} (raw pattern)).mapError .badPattern
  let found := e.longest? false ⟨none, raw t, []⟩
  if Text.occursIn "\\(" pattern then
    return (found.bind fun spot => spot.groups.lookup 1).getD []
  else return Text.ofNat ((found.map fun spot => (raw t).length - spot.rest.length).getD 0)

/-- What an operator makes of two values. -/
def combine (operator a b : Text) : Except Fault Text :=
  let truth (answer : Bool) : Except Fault Text := .ok (if answer then ['1'] else ['0'])
  let sum (make : Int → Int → Int) : Except Fault Text :=
    match numeral? a, numeral? b with
    | some m, some n => .ok (Text.ofInt (make m n))
    | _, _ => .error .noInteger
  let quotient (make : Int → Int → Int) : Except Fault Text :=
    match numeral? a, numeral? b with
    | some _, some 0 => .error .zeroDivision
    | _, _ => sum make
  let order : Ordering := match numeral? a, numeral? b with
    | some m, some n => compare m n
    | _, _ => if raw a < raw b then .lt else if a = b then .eq else .gt
  let table : List (Text × Except Fault Text) := [
    ("|", .ok (if !isNothing a then a else if isNothing b then ['0'] else b)),
    ("&", .ok (if isNothing a || isNothing b then ['0'] else a)),
    ("=", truth (order == .eq)), ("==", truth (order == .eq)), ("!=", truth (order != .eq)),
    ("<", truth (order == .lt)), ("<=", truth (order != .gt)), (">", truth (order == .gt)),
    (">=", truth (order != .lt)),
    ("+", sum fun m n => m + n), ("-", sum fun m n => m - n), ("*", sum fun m n => m * n),
    ("/", quotient Int.tdiv), ("%", quotient Int.tmod), (":", fitting a b)]
  (table.lookup operator).getD (.error .nothing)

/-- The part of a text from a place on, of a length. -/
def partOf (t start length : Text) : Text :=
  match numeral? start, numeral? length with
  | some start, some length =>
    if 0 < start ∧ 0 < length then (t.drop (start.toNat - 1)).take length.toNat else []
  | _, _ => []

/-- A value that was read, the word before what is left, and what is left. -/
structure Found where
  value : Text
  last : Text
  rest : List Text

mutual

/-- Reads a value with the operators that bind at least as strongly as asked for; `last` is the word
before it. -/
def value : Nat → Nat → (last : Text) → List Text → Except Fault Found
  | 0, _, _, _ => .error .nothing
  | fuel + 1, level, last, words =>
    if level ≤ 5 then
      match value fuel (level + 1) last words with
      | .ok found => more fuel level found
      | .error fault => .error fault
    else single fuel last words

/-- Goes on with a value that has been read, as long as there are operators. -/
def more : Nat → Nat → Found → Except Fault Found
  | 0, _, _ => .error .nothing
  | fuel + 1, level, found =>
    match found.rest with
    | [] => .ok found
    | word :: rest =>
      if (operators level).contains word then
        match value fuel (level + 1) word rest with
        | .ok next =>
          match combine word found.value next.value with
          | .ok made => more fuel level { next with value := made }
          | .error fault => .error fault
        | .error fault => .error fault
      else .ok found

/-- Reads values without operators, so many of them. -/
def several : Nat → (count : Nat) → (last : Text) → List Text →
    Except Fault (List Text × Text × List Text)
  | 0, _, _, _ => .error .nothing
  | _ + 1, 0, last, words => .ok ([], last, words)
  | fuel + 1, count + 1, last, words =>
    match value fuel 6 last words with
    | .ok found =>
      match several fuel count found.last found.rest with
      | .ok (values, last, rest) => .ok (found.value :: values, last, rest)
      | .error fault => .error fault
    | .error fault => .error fault

/-- Reads a value without operators. -/
def single : Nat → (last : Text) → List Text → Except Fault Found
  | 0, _, _ => .error .nothing
  | _ + 1, last, [] => .error (.endsBehind last)
  | fuel + 1, _, word :: rest =>
    let made (count : Nat) (make : List Text → Except Fault Text) : Except Fault Found :=
      match several fuel count word rest with
      | .ok (values, last, rest) => (make values).map (⟨·, last, rest⟩)
      | .error fault => .error fault
    if word = ['('] then
      match value fuel 0 word rest with
      | .ok ⟨value, _, [')'] :: rest⟩ => .ok ⟨value, [')'], rest⟩
      | .ok found => .error (.openBehind found.last)
      | .error fault => .error fault
    else if word = [')'] then .error .closes
    else if word = ['+'] then
      match rest with
      | plain :: rest => .ok ⟨plain, plain, rest⟩
      | [] => .error (.endsBehind word)
    else if word = "length".toList then
      made 1 fun values => .ok (Text.ofNat (raw (values.headD [])).length)
    else if word = "match".toList then
      made 2 fun values => fitting (values.headD []) (values.getD 1 [])
    else if word = "index".toList then
      made 2 fun values => .ok (Text.ofNat
        (((values.headD []).findIdx? (values.getD 1 []).contains).elim 0 (· + 1)))
    else if word = "substr".toList then
      made 3 fun values => .ok (partOf (values.headD []) (values.getD 1 []) (values.getD 2 []))
    else .ok ⟨word, word, rest⟩

end

/-- The value of some arguments, or why they are no calculation. -/
def result (words : List Text) : Except Fault Text :=
  if words.isEmpty then .error .nothing
  else match value (10 * words.length + 10) 0 [] words with
    | .ok ⟨value, _, []⟩ => .ok value
    | .ok ⟨_, _, word :: _⟩ => .error (.unexpected word)
    | .error fault => .error fault

end Agenda.Shell.Calculation
