import Agenda.Shell.Expression.Reader
import Agenda.Shell.Filter
import Agenda.Shell.FilterTool.Basic

/-!
# Copies of text

What `cat` and `nl` print: what they read, with numbers in front of lines and with signs for what
cannot be seen.
-/

namespace Agenda.Shell.Filter

/-- How text is copied. -/
structure Copying where
  /-- Whether of several empty lines in a row only one is kept. -/
  squeezes : Bool := false
  numbers : Bool := false
  /-- Whether empty lines have no numbers. -/
  skipsEmpty : Bool := false
  showsEnds : Bool := false
  showsTabs : Bool := false
  showsOthers : Bool := false

namespace Copying

/-- What some letters ask for. -/
def ofOptions (options : Options) : Copying :=
  let has (letters : Text) : Bool := letters.any options.has
  { squeezes := has "s"
    numbers := has "nb"
    skipsEmpty := has "b"
    showsEnds := has "AEe"
    showsTabs := has "ATt"
    showsOthers := has "Aetv" }

/-- A byte below 128 that is no line feed, with a sign for a control character. -/
def seen (copying : Copying) (n : Nat) : Text :=
  if n = 127 then "^?"
  else if n < 32 ∧ (n ≠ 9 ∨ copying.showsTabs) then ['^', Char.ofNat (n + 64)]
  else [Char.ofNat n]

def shown (copying : Copying) (c : Char) : Text :=
  if c = '\t' then if copying.showsTabs then "^I" else ['\t']
  else if !copying.showsOthers ∨ c = '\n' then [c]
  else if c.toNat < 128 then copying.seen c.toNat
  else "M-" ++ { copying with showsTabs := true }.seen (c.toNat - 128)

def shownLine (copying : Copying) (line : Text) : Text :=
  if copying.showsEnds ∧ Text.endsWith "\n" line then
    let line := line.dropLast
    if Text.endsWith "\r" line ∧ !copying.showsOthers then
      line.dropLast.flatMap copying.shown ++ "^M$\n"
    else line.flatMap copying.shown ++ "$\n"
  else line.flatMap copying.shown

/-- Lines without empty ones that follow empty ones. -/
def squeezed : List Text → List Text
  | first :: second :: rest =>
    if first = ['\n'] ∧ second = ['\n'] then squeezed (second :: rest)
    else first :: squeezed (second :: rest)
  | lines => lines

/-- Lines with numbers from `n` on. -/
def numberedFrom (copying : Copying) (n : Nat) : List Text → List Text
  | [] => []
  | line :: rest =>
    if copying.skipsEmpty ∧ line = ['\n'] then
      copying.shownLine line :: copying.numberedFrom n rest
    else (column 6 (Text.ofNat n) ++ '\t' :: copying.shownLine line) ::
      copying.numberedFrom (n + 1) rest

def copy (copying : Copying) (t : Text) : Text :=
  let lines := fullLines t
  let lines := if copying.squeezes then squeezed lines else lines
  (if copying.numbers then copying.numberedFrom 1 lines
    else lines.map copying.shownLine).flatten

end Copying

/-- Which lines of a part of a page have numbers. -/
inductive NumberStyle
  | all
  | notEmpty
  | none
  | matching (e : Expression)

inductive PagePart
  | header
  | body
  | footer
deriving DecidableEq

structure Numbering where
  style : PagePart → NumberStyle
  /-- What the lines that start the parts of pages are made of. -/
  sign : Text
  first : Int
  step : Int
  width : Nat
  separator : Text
  /-- Whether numbers stand at the left of their column, and whether zeros fill it. -/
  left : Bool
  zeros : Bool
  /-- How many empty lines in a row count as one. -/
  joined : Nat
  /-- Whether the numbers go on from part to part. -/
  continued : Bool

/-- What is known while lines are numbered. -/
structure NumberingState where
  part : PagePart := .body
  next : Int
  empty : Nat := 0

namespace Numbering

def styleOf (part value : Text) : Except Misuse NumberStyle :=
  match value with
  | ['a'] => .ok .all
  | ['t'] => .ok .notEmpty
  | ['n'] => .ok .none
  | 'p' :: t =>
    match Expression.read {} t with
    | .ok e => .ok (.matching e)
    | .error _ => refuse "Invalid regular expression"
  | value => refuseWithHint ("invalid " ++ part ++ " numbering style: " ++ Misuse.marked value)

def numberOf (what value : Text) : Except Misuse Int :=
  match numeral? value with
  | some n => .ok n
  | none => .error (.badValue what value)

/-- A number above zero that an option is given. -/
def positiveOf (what value : Text) : Except Misuse Nat := do
  let n ← numberOf what value
  if 0 < n then return n.toNat
  else refuse ((Misuse.badValue what value).words ++ ": Numerical result out of range")

/-- The signs of the starts of parts, of two characters at least. -/
def signOf : Text → Text
  | [c] => [c, ':']
  | sign => sign

def ofOptions (options : Options) : Except Misuse Numbering := do
  let value (letter : Char) (default : Text) : Text := raw (valueOr options letter default)
  let header ← styleOf "header" (value 'h' "n")
  let body ← styleOf "body" (value 'b' "t")
  let footer ← styleOf "footer" (value 'f' "n")
  let format := value 'n' "rn"
  unless [("ln" : Text), "rn", "rz"].contains format do
    refuseWithHint ("invalid line numbering format: " ++ Misuse.marked format)
  return {
    style := fun
      | .header => header
      | .body => body
      | .footer => footer
    sign := signOf (value 'd' "\\:")
    first := ← numberOf "starting line number" (value 'v' "1")
    step := ← numberOf "line number increment" (value 'i' "1")
    width := ← positiveOf "line number field width" (value 'w' "6")
    separator := value 's' "\t"
    left := format = "ln".toList
    zeros := format = "rz".toList
    joined := ← positiveOf "line number of blank lines" (value 'l' "1")
    continued := options.has 'p' }

def written (numbering : Numbering) (n : Int) : Text :=
  let digits := Text.ofNat n.natAbs
  let sign : Text := if n < 0 then ['-'] else []
  let gap := numbering.width - sign.length - digits.length
  if numbering.left then sign ++ digits ++ List.replicate gap ' '
  else if numbering.zeros then sign ++ List.replicate gap '0' ++ digits
  else List.replicate gap ' ' ++ sign ++ digits

def partOf? (numbering : Numbering) (line : Text) : Option PagePart :=
  let sign := numbering.sign
  if sign.isEmpty then none
  else if line = sign ++ sign ++ sign then some .header
  else if line = sign ++ sign then some .body
  else if line = sign then some .footer
  else none

/-- Whether a line has a number, and the empty lines before the next one. -/
def counts (numbering : Numbering) (state : NumberingState) (line : Text) : Bool × Nat :=
  match numbering.style state.part with
  | .all =>
    if numbering.joined ≤ 1 then (true, 0)
    else if !line.isEmpty ∨ state.empty + 1 = numbering.joined then (true, 0)
    else (false, state.empty + 1)
  | .notEmpty => (!line.isEmpty, state.empty)
  | .none => (false, state.empty)
  | .matching e => ((e.find? false none line).isSome, state.empty)

def stepLine (numbering : Numbering) (state : NumberingState) (line : Text) :
    NumberingState × Text :=
  match numbering.partOf? line with
  | some part =>
    ({ state with part, next := if numbering.continued then state.next else numbering.first },
      ['\n'])
  | none =>
    let (isCounted, empty) := numbering.counts state line
    if isCounted then
      ({ state with next := state.next + numbering.step, empty },
        numbering.written state.next ++ numbering.separator ++ line ++ ['\n'])
    else
      ({ state with empty },
        List.replicate (numbering.width + numbering.separator.length) ' ' ++ line ++ ['\n'])

def steps (numbering : Numbering) (state : NumberingState) (t : Text) : NumberingState × Text :=
  let (state, parts) := (linesOf t).foldl (fun (state, parts) line =>
    let (state, out) := numbering.stepLine state line
    (state, out :: parts)) (state, [])
  (state, parts.reverse.flatten)

/-- The way through files. -/
def passing (numbering : Numbering) : Passing NumberingState where
  start := { next := numbering.first }
  step := fun state _ t => numbering.steps state t

end Numbering

end Agenda.Shell.Filter
