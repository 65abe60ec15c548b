import Agenda.Markdown.Inline

/-!
# Code in a line

The search that every rule for paired marks needs: the shortest stretch of bits behind which
something else is found.

Code stands between two runs of ticks of one length; runs of another length belong to it. A run that
as many ticks nowhere follow may do with fewer of its ticks, and then the others belong to the code.
Where as many ticks follow, but always as a part of a longer run, nothing is code, and the search
goes on behind the first of them.
-/

namespace Agenda.Markdown

/-! ## Shortest cuts -/

/-- Finds the shortest stretch of accepted bits, which may be empty, behind which `stop` finds
something; `stop` is given the last bit of the stretch. -/
def shortest {α : Type} (accept : Bit → Bool) (stop : Option Bit → List Bit → Option α)
    (last : Option Bit) : List Bit → Option (List Bit × α)
  | [] => (stop last []).map (([], ·))
  | bit :: rest =>
    match stop last (bit :: rest) with
    | some found => some ([], found)
    | none =>
      if accept bit then
        (shortest accept stop (some bit) rest).map fun (inside, found) => (bit :: inside, found)
      else none

/-- Finds the shortest stretch that holds at least one bit. -/
def shortestSome {α : Type} (accept : Bit → Bool) (stop : Option Bit → List Bit → Option α) :
    List Bit → Option (List Bit × α)
  | [] => none
  | bit :: rest =>
    if accept bit then
      (shortest accept stop (some bit) rest).map fun (inside, found) => (bit :: inside, found)
    else none

def anyBit : Bit → Bool := fun _ => true

/-- The bits behind `count` marks, if they start with as many. -/
def marks? (mark : Char) : Nat → List Bit → Option (List Bit)
  | 0, bits => some bits
  | _ + 1, [] => none
  | count + 1, bit :: rest => if bit.is mark then marks? mark count rest else none

/-! ## Code in a line -/

/-- The character that code stands between. -/
def tick : Char := '\x60'

namespace Code

inductive Find
  | piece (bit : Bit) (behind : List Bit)
  /-- A number of bits that are as they are. -/
  | plain (count : Nat)

/-- What `count` ticks close, if they are whole runs or else if a longer run may go on behind them:
the nearest stretch before such ticks, and what is behind them. -/
def closedBy? (count : Nat) (whole : Bool) (bits : List Bit) : Option (List Bit × List Bit) :=
  shortestSome anyBit (fun last bits => do
    guard (!Bit.startWith tick last.toList)
    let behind ← marks? tick count bits
    guard (!(whole && Bit.startWith tick behind))
    return behind) bits

/-- What is found behind `count` ticks. -/
def between? (count : Nat) (bits : List Bit) : Option Find := do
  let opened ← marks? tick count bits
  match closedBy? count true opened with
  | some (inside, behind) =>
    return .piece (.piece (.code (Text.trim (Bit.plain inside)))) behind
  | none =>
    let (inside, _) ← closedBy? count false opened
    return .plain (count + inside.length + 1)

/-- What is found behind the longest run of ticks that as many ticks follow. -/
def from? (bits : List Bit) : Nat → Option Find
  | 0 => none
  | count + 1 => (between? (count + 1) bits).or (from? bits count)

/-- Pairs of backslashes before a tick: each pair stands for one backslash, and the tick keeps its
meaning. -/
def backslashPairs? (bits : List Bit) : Option Find :=
  let run := (bits.takeWhile (·.is '\\')).length
  let behind := bits.drop run
  if run ≠ 0 ∧ run % 2 = 0 ∧ Bit.startWith tick behind then
    some (.piece (.piece (.literal (List.replicate (run / 2) '\\'))) behind)
  else none

/-- What is found at the start of some bits, given the bit before. -/
def find? (before : Option Bit) (bits : List Bit) : Option Find :=
  if Bit.startWith '\\' before.toList then none
  else (backslashPairs? bits).or (from? bits (bits.takeWhile (·.is tick)).length)

/-- Reads code in at most `count` steps. -/
def readUpTo : Nat → Option Bit → List Bit → List Bit
  | 0, _, bits => bits
  | _, _, [] => []
  | count + 1, before, bit :: rest =>
    match find? before (bit :: rest) with
    | some (.piece piece behind) => piece :: readUpTo count (some piece) behind
    | some (.plain skipped) =>
      let plain := (bit :: rest).take skipped
      plain ++ readUpTo count (plain.getLast?.or before) ((bit :: rest).drop skipped)
    | none => bit :: readUpTo count (some bit) rest

/-- The pass for code. Every step is over one bit at least. -/
def read (bits : List Bit) : List Bit := readUpTo bits.length none bits

end Code

end Agenda.Markdown
