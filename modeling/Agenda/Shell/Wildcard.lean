import Agenda.Shell.Expression.Reader
import Agenda.Shell.Printing

/-!
# Wildcards

The patterns of scripts: a star stands for any text, a question mark for one byte, a list in
brackets for one of its characters, and what has a backslash before it for itself. Some patterns may
also have groups of choices between parentheses, and a sign before them that tells how often one of
the choices is there.
-/

namespace Agenda.Shell.Wildcard

/-- How patterns are read. -/
structure Style where
  groups : Bool := false
  /-- Whether capitals and small letters are the same. -/
  fold : Bool := false
  /-- Whether a caret turns a list around like an exclamation mark. -/
  caret : Bool := false

def groupSigns : List Char := ['?', '*', '+', '@', '!']

def opens (t : Text) : Bool := t.head? == some '('

/-- The choices of a group whose opening parenthesis is left out here, and what is behind the one
that closes it; `depth` other groups are open inside it. -/
def choices? (depth : Nat) : Text → Option (List Text × Text)
  | [] => none
  | '\\' :: c :: rest => (choices? depth rest).map (add ['\\', c])
  | c :: rest =>
    if c = '(' then (choices? (depth + 1) rest).map (add [c])
    else if c = ')' then
      if depth = 0 then some ([[]], rest) else (choices? (depth - 1) rest).map (add [c])
    else if c = '|' ∧ depth = 0 then
      (choices? 0 rest).map fun (choices, behind) => ([] :: choices, behind)
    else (choices? depth rest).map (add [c])
where
  /-- Choices with a text before the first one. -/
  add (t : Text) : List Text × Text → List Text × Text
    | (first :: choices, behind) => ((t ++ first) :: choices, behind)
    | ([], behind) => ([t], behind)

def grouped (sign : Char) (choices : Expression) : Expression :=
  match sign with
  | '?' => .repeated choices 0 (some 1)
  | '*' => .repeated choices 0 none
  | '+' => .repeated choices 1 none
  | '!' => .except choices
  | _ => choices

/-- The expression that accepts what one of some others accepts. -/
def anyOf : List Expression → Expression
  | [] => .empty
  | [e] => e
  | e :: others => .either e (anyOf others)

/-- The expression for a pattern. Each character takes one of the `fuel`. -/
def expressionFrom (style : Style) : Nat → Text → Expression
  | 0, _ | _ + 1, [] => .empty
  | fuel + 1, c :: rest =>
    let isGroup := style.groups && groupSigns.contains c && opens rest
    match if isGroup then choices? 0 rest.tail else none with
    | some (choices, behind) =>
      .chain (grouped c (anyOf (choices.map (expressionFrom style fuel))))
        (expressionFrom style fuel behind)
    | none =>
      match c, rest with
      | '*', rest => .chain (.repeated .any 0 none) (expressionFrom style fuel rest)
      | '?', rest => .chain .any (expressionFrom style fuel rest)
      | '\\', d :: rest => .chain (.char d) (expressionFrom style fuel rest)
      | '[', rest =>
        let (negated, inside) := match rest with
          | '!' :: inside => (true, inside)
          | '^' :: inside => if style.caret then (true, inside) else (false, '^' :: inside)
          | inside => (false, inside)
        match Expression.items .quotes 0 true inside with
        | .ok (ranges, length) =>
          .chain (.oneOf negated ranges) (expressionFrom style fuel (inside.drop length))
        | .error _ => .chain (.char '[') (expressionFrom style fuel rest)
      | c, rest => .chain (.char c) (expressionFrom style fuel rest)

def fits (style : Style) (pattern t : Text) : Bool :=
  let bytes := raw pattern
  let e := expressionFrom style (bytes.length + 1) bytes
  ((Expression.chain e (.side .stop)).longest? style.fold ⟨none, raw t, []⟩).isSome

/-- Whether a pattern of the plainest style stands for a text. -/
def accepts (pattern t : Text) : Bool := fits {} pattern t

example : accepts "*.[a-c]?x".toList "a.b.bex".toList = true := by decide +kernel

example : fits { groups := true } "+(a|b)@(c|)".toList "abac".toList = true ∧
    fits { groups := true } "!(a)".toList "a".toList = false := by
  decide +kernel

end Agenda.Shell.Wildcard
