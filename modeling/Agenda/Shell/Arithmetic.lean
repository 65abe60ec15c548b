import Agenda.Shell.Printing
import Agenda.Shell.Token

/-!
# Sums in scripts

Integer expressions: numbers, names, the arithmetic operators, comparisons, logic, choices and
assignments, with the usual order of binding. A comparison is worth one or zero. What a choice or
the logic leaves out is read but neither calculated nor assigned.
-/

namespace Agenda.Shell.Sum

/-- A token of an expression. -/
inductive Item
  | number (n : Int)
  | name (t : Text)
  | sign (t : Text)
deriving Repr, DecidableEq

/-- What is wrong with an expression. -/
inductive Fault
  | divisionByZero
  /-- Something else is expected here: a value, the end, or a sign. -/
  | expecting (what : Text)
  | noNumber (value : Text)

/-- What is said about an expression that is wrong. -/
def Fault.message (large : Bool) (expression : Text) : Fault → Text
  | divisionByZero =>
    if large then
      let divisor := ((expression.reverse.takeWhile fun c => c ≠ '/' ∧ c ≠ '%').reverse).dropWhile
        Text.isSpace
      expression ++ ": division by 0 (error token is \x22" ++ divisor ++ "\x22)"
    else "arithmetic expression: division by zero: \x22" ++ expression ++ "\x22"
  | expecting what =>
    "arithmetic expression: expecting " ++ what ++ ": \x22" ++ expression ++ "\x22"
  | noNumber value => "Illegal number: " ++ value

/-- The signs that give a name a value. -/
def assigning : List Text := ["<<=", ">>=", "=", "+=", "-=", "*=", "/=", "%=", "&=", "^=", "|="]

/-- The signs, longer ones before their beginnings. -/
def signs : List Text := ([
  "<<=", ">>=", "&&", "||", "==", "!=", "<=", ">=", "<<", ">>", "+=", "-=", "*=", "/=", "%=", "&=",
  "^=", "|=", "+", "-", "*", "/", "%", "<", ">", "!", "~", "&", "^", "|", "?", ":", "(", ")",
  "="] : List String).map String.toList

/-- The signs of the larger language that are tried before the others. -/
def largeSigns : List Text := ["++", "--", "**", ","]

def digitIn? (base : Nat) (c : Char) : Option Nat :=
  let value :=
    if c.isDigit then c.toNat - 48
    else if c.isLower then c.toNat - 87
    else if c.isUpper then if base ≤ 36 then c.toNat - 55 else c.toNat - 29
    else if c = '@' then 62
    else if c = '_' then 63
    else base
  if value < base then some value else none

/-- A number in a base that is written behind a hash, and what is behind it. -/
def cutBased (base : Nat) (t : Text) : Nat × Text :=
  let digits := t.takeWhile fun c => (digitIn? base c).isSome
  (digits.foldl (fun n c => n * base + (digitIn? base c).getD 0) 0, t.drop digits.length)

/-- The digits of a number at the start of a text with their base, and what is behind them: base
sixteen behind `0x`, base eight behind a zero. -/
def cutNumber (t : Text) : Nat × Text × Text :=
  let isHex (c : Char) : Bool := c.isDigit || "abcdefABCDEF".toList.contains c
  match t with
  | '0' :: x :: c :: rest =>
    if (x = 'x' ∨ x = 'X') ∧ isHex c then
      (16, (c :: rest).takeWhile isHex, (c :: rest).dropWhile isHex)
    else (8, t.takeWhile isOctal, t.dropWhile isOctal)
  | '0' :: _ => (8, t.takeWhile isOctal, t.dropWhile isOctal)
  | t => (10, t.takeWhile Char.isDigit, t.dropWhile Char.isDigit)

def numberOf? (t : Text) : Option Int :=
  match cutNumber t with
  | (base, digits, []) =>
    if digits.isEmpty ∧ !t.isEmpty then none
    else some (min (ofDigits base digits : Int) (wordRange / 2 - 1))
  | _ => none

def wrap (n : Int) : Int := (n + wordRange / 2) % wordRange - wordRange / 2

/-- A name at the start of a text, in the larger language perhaps with an index, and what is behind
it. -/
def cutName (large : Bool) (t : Text) : Text × Text :=
  let name := t.takeWhile isNameChar
  match large, t.drop name.length with
  | true, '[' :: inside =>
    match Text.cutAt? ']' inside with
    | some (index, rest) => (name ++ '[' :: index ++ [']'], rest)
    | none => (name, '[' :: inside)
  | _, rest => (name, rest)

/-- The tokens of an expression; a character without a meaning is a sign of its own. -/
def items (large : Bool) : Nat → Text → List Item
  | 0, _ => []
  | _ + 1, [] => []
  | fuel + 1, c :: rest =>
    if Text.isSpace c ∨ c = '\n' ∨ (large ∧ c = '$') then items large fuel rest
    else if c.isDigit then
      let (base, digits, behind) := cutNumber (c :: rest)
      let (n, behind) : Int × Text := match large, behind with
        | true, '#' :: behind =>
          let (n, behind) := cutBased (ofDigits base digits) behind
          (n, behind)
        | _, behind => (ofDigits base digits, behind)
      .number (if large then wrap n else min n (wordRange / 2 - 1)) :: items large fuel behind
    else if isNameChar c then
      let (name, behind) := cutName large (c :: rest)
      .name name :: items large fuel behind
    else
      let known := if large then largeSigns ++ signs else signs
      let sign := (known.find? (Text.startsWith · (c :: rest))).getD [c]
      .sign sign :: items large fuel ((c :: rest).drop sign.length)

/-- How tightly a sign between two values binds. -/
def binding? (sign : Text) : Option Nat :=
  let table : List (Text × Nat) := [("|", 3), ("^", 4), ("&", 5), ("==", 6), ("!=", 6), ("<", 7),
    ("<=", 7), (">", 7), (">=", 7), ("<<", 8), (">>", 8), ("+", 9), ("-", 9), ("*", 10), ("/", 10),
    ("%", 10), ("**", 11)]
  table.lookup sign

/-- One for what holds and zero for what does not. -/
def truth (b : Bool) : Int := if b then 1 else 0

/-- What becomes of the bits of two integers. -/
def bits (act : BitVec 64 → BitVec 64 → BitVec 64) (a b : Int) : Int :=
  (act (BitVec.ofInt 64 a) (BitVec.ofInt 64 b)).toInt

def power (base : Int) : Nat → Int
  | 0 => 1
  | exponent + 1 => wrap (base * power base exponent)

/-- The value of a sign between two values; nothing can be divided by zero. -/
def combine (sign : Text) (a b : Int) : Except Fault Int :=
  let divided (act : Int → Int → Int) : Except Fault Int :=
    if b = 0 then .error .divisionByZero else .ok (act a b)
  let table : List (Text × Except Fault Int) := [("==", .ok (truth (a == b))),
    ("!=", .ok (truth (a != b))), ("<", .ok (truth (a < b))), ("<=", .ok (truth (a ≤ b))),
    (">", .ok (truth (b < a))), (">=", .ok (truth (b ≤ a))), ("+", .ok (wrap (a + b))),
    ("-", .ok (wrap (a - b))), ("*", .ok (wrap (a * b))),
    ("<<", .ok (wrap (a * (1 <<< (b % 64).toNat : Nat)))),
    (">>", .ok (a / (1 <<< (b % 64).toNat : Nat))),
    ("|", .ok (bits (· ||| ·) a b)), ("^", .ok (bits (· ^^^ ·) a b)),
    ("&", .ok (bits (· &&& ·) a b)), ("/", divided Int.tdiv), ("%", divided Int.tmod),
    ("**", .ok (power a b.toNat))]
  (table.lookup sign).getD (.ok b)

/-- An evaluation at work: the tokens ahead, and the values that names have been given. -/
structure State where
  ahead : List Item
  assigned : List (Text × Int) := []

abbrev Step := StateT State (Except Fault)

/-- Skips a sign if it comes next. -/
def take (sign : Text) : Step Bool := do
  let state ← get
  match state.ahead with
  | .sign t :: rest =>
    if t = sign then
      set { state with ahead := rest }
      return true
    else return false
  | _ => return false

/-- Skips a sign that has to come next. -/
def demand (sign : Text) : Step Unit := do
  if !(← take sign) then throw (.expecting ('\x27' :: sign ++ ['\x27']))

def valueOf (lookup : Text → Except Fault Int) (name : Text) : Step Int := do
  match (← get).assigned.lookup name with
  | some n => return n
  | none => (lookup name : Except Fault Int)

def assign (active : Bool) (name : Text) (n : Int) : Step Unit := do
  if active then modify fun state => { state with assigned := (name, n) :: state.assigned }

mutual

/-- Reads a value: a number, a name, a sign before a value, or an expression in parentheses. -/
def value (lookup : Text → Except Fault Int) : Nat → Bool → Step Int
  | 0, _ => throw (.expecting "primary")
  | fuel + 1, active => do
    let state ← get
    match state.ahead with
    | .number n :: rest =>
      set { state with ahead := rest }
      return n
    | .name t :: rest =>
      set { state with ahead := rest }
      let n ← valueOf lookup t
      if ← take "++" then assign active t (wrap (n + 1))
      else if ← take "--" then assign active t (wrap (n - 1))
      return n
    | .sign t :: rest =>
      set { state with ahead := rest }
      if t = "-".toList then return wrap (-(← value lookup fuel active))
      else if t = "+".toList then value lookup fuel active
      else if t = "!".toList then return truth ((← value lookup fuel active) == 0)
      else if t = "~".toList then return -(← value lookup fuel active) - 1
      else if t = "(".toList then
        let n ← assignment lookup fuel active
        demand ")"
        return n
      else if t = "++".toList ∨ t = "--".toList then
        match rest with
        | .name name :: rest =>
          modify fun state => { state with ahead := rest }
          let n := wrap ((← valueOf lookup name) + if t = "++".toList then 1 else -1)
          assign active name n
          return n
        | _ => throw (.expecting "primary")
      else throw (.expecting "primary")
    | [] => throw (.expecting "primary")

/-- Reads an expression that may give a name a value. -/
def assignment (lookup : Text → Except Fault Int) : Nat → Bool → Step Int
  | 0, _ => throw (.expecting "primary")
  | fuel + 1, active => do
    let state ← get
    match state.ahead with
    | .name t :: .sign sign :: rest =>
      if assigning.contains sign then
        set { state with ahead := rest }
        let n ← assignment lookup fuel active
        if sign = "=".toList then
          assign active t n
          return n
        else
          let old ← valueOf lookup t
          let n ← if active then (combine sign.dropLast old n : Except Fault Int) else pure n
          assign active t n
          return n
      else choice lookup fuel active
    | _ => choice lookup fuel active

/-- Reads an expression that may be a choice between two others. -/
def choice (lookup : Text → Except Fault Int) : Nat → Bool → Step Int
  | 0, _ => throw (.expecting "primary")
  | fuel + 1, active => do
    let first ← disjunction lookup fuel active
    if ← take "?" then
      let yes ← assignment lookup fuel (active && first != 0)
      demand ":"
      let no ← choice lookup fuel (active && first == 0)
      return if first = 0 then no else yes
    else return first

/-- Reads expressions of which one has to hold. -/
def disjunction (lookup : Text → Except Fault Int) : Nat → Bool → Step Int
  | 0, _ => throw (.expecting "primary")
  | fuel + 1, active => do
    let first ← conjunction lookup fuel active
    if ← take "||" then
      let second ← disjunction lookup fuel (active && first == 0)
      return truth (first != 0 || second != 0)
    else return first

/-- Reads expressions of which all have to hold. -/
def conjunction (lookup : Text → Except Fault Int) : Nat → Bool → Step Int
  | 0, _ => throw (.expecting "primary")
  | fuel + 1, active => do
    let first ← combination lookup fuel 0 active
    if ← take "&&" then
      let second ← conjunction lookup fuel (active && first != 0)
      return truth (first != 0 && second != 0)
    else return first

/-- Reads an expression whose signs bind at least so tightly. -/
def combination (lookup : Text → Except Fault Int) : Nat → Nat → Bool → Step Int
  | 0, _, _ => throw (.expecting "primary")
  | fuel + 1, least, active => do
    let first ← value lookup fuel active
    goOn lookup fuel least active first

/-- Goes on with an expression behind its first value. -/
def goOn (lookup : Text → Except Fault Int) : Nat → Nat → Bool → Int → Step Int
  | 0, _, _, _ => throw (.expecting "primary")
  | fuel + 1, least, active, first => do
    let state ← get
    match state.ahead with
    | .sign sign :: rest =>
      match binding? sign with
      | none => return first
      | some binding =>
        if binding < least then return first
        else
          set { state with ahead := rest }
          let second ← combination lookup fuel (binding + 1) active
          let n ← if active then (combine sign first second : Except Fault Int) else pure second
          goOn lookup fuel least active n
    | _ => return first

end

/-- Reads expressions with commas between them, of which the last one counts; without the larger
language there is only one. -/
def series (lookup : Text → Except Fault Int) (large : Bool) (depth : Nat) : Nat → Step Int
  | 0 => throw (.expecting "primary")
  | fuel + 1 => do
    let n ← assignment lookup depth true
    if ← if large then take "," else pure false then series lookup large depth fuel
    else if (← get).ahead.isEmpty then return n
    else throw (.expecting "EOF")

/-- The value of an expression, and the values that names are given by it, the last one first. An
empty expression of the larger language is worth zero. -/
def evaluate (large : Bool) (lookup : Text → Except Fault Int) (expression : Text) :
    Except Fault (Int × List (Text × Int)) :=
  let items := items large (expression.length + 1) expression
  if large ∧ items.isEmpty then .ok (0, [])
  else do
    let (n, state) ← (series lookup large (9 * items.length + 9) (items.length + 1)).run ⟨items, []⟩
    return (n, state.assigned)

/-- The number that the value of a variable writes; an empty one is worth zero. -/
def ofValue (t : Text) : Except Fault Int :=
  let number? := match ((t.dropWhile isGap).reverse.dropWhile isGap).reverse with
    | '-' :: rest => (numberOf? rest).map (- ·)
    | '+' :: rest => numberOf? rest
    | t => numberOf? t
  match number? with
  | some n => .ok n
  | none => .error (.noNumber t)

end Agenda.Shell.Sum
