import Agenda.Shell.Filter

/-!
# Widths of lines

How `fold` breaks lines at a width, and how `expand` and `unexpand` put spaces in the place of tabs
and tabs in the place of spaces.
-/

namespace Agenda.Shell.Filter

/-- How lines are broken. -/
structure Folding where
  width : Nat
  /-- Whether bytes are counted and not columns. -/
  ofBytes : Bool
  /-- Whether lines are broken behind blanks if they can be. -/
  atBlanks : Bool

namespace Folding

def columnBehind (folding : Folding) (column : Nat) (c : Char) : Nat :=
  if folding.ofBytes then column + 1
  else if c = '\x08' then column - 1
  else if c = '\r' then 0
  else if c = '\t' then column + (8 - column % 8)
  else column + 1

/-- A line backwards, parted behind its last blank: the part behind it and the one up to it. -/
def atLastBlank (line : Text) : Text × Text := line.span fun c => c ≠ ' ' ∧ c ≠ '\t'

/-- Text with lines broken: `line` is what the line at hand holds, backwards, and `steps` a bound on
the number of steps. -/
def broken (folding : Folding) : (steps : Nat) → (column : Nat) → (line : Text) → Text → Text
  | 0, _, line, t => line.reverse ++ t
  | _, _, line, [] => line.reverse
  | steps + 1, column, line, c :: rest =>
    if c = '\n' then line.reverse ++ '\n' :: folding.broken steps 0 [] rest
    else
      let next := folding.columnBehind column c
      if next ≤ folding.width then folding.broken steps next (c :: line) rest
      else
        let (behind, upTo) := atLastBlank line
        if folding.atBlanks ∧ !upTo.isEmpty then
          let column := behind.reverse.foldl folding.columnBehind 0
          upTo.reverse ++ '\n' :: folding.broken steps column behind (c :: rest)
        else if line.isEmpty then folding.broken steps next [c] rest
        else line.reverse ++ '\n' :: folding.broken steps 0 [] (c :: rest)

def of (folding : Folding) (t : Text) : Text := folding.broken (3 * t.length + 1) 0 [] t

def ofOptions (options : Options) : Except Misuse Folding := do
  let what : Text := "number of columns"
  let value := ((options.filter fun option => option.1 = 'w' || option.1 = 'n').map
    (·.2)).getLast?.getD "80".toList
  match whole? value with
  | none => .error (.badValue what value)
  | some 0 => refuse ((Misuse.badValue what value).words ++ ": Numerical result out of range")
  | some width => return {
      width
      ofBytes := options.has 'b'
      atBlanks := options.has 's' }

end Folding

structure TabStops where
  stops : List Nat
  /-- The distance of all others, if there are others, and the column that they are counted from. -/
  size : Option Nat
  start : Nat := 0

namespace TabStops

def behind? (tabs : TabStops) (column : Nat) : Option Nat :=
  match tabs.stops.find? (column < ·) with
  | some stop => some stop
  | none => tabs.size.map fun size => column + (size - (column - tabs.start) % size)

/-- One item of a list of stops: a stop, or a distance of those behind the last one, counted from
zero or from that one. -/
inductive Item
  | stop (column : Nat)
  | every (size : Nat)
  | further (size : Nat)

def itemOf (word : Text) : Except Misuse Item :=
  let (mark, digits) : Char × Text := match word with
    | '/' :: rest => ('/', rest)
    | '+' :: rest => ('+', rest)
    | word => (' ', word)
  match digits.dropWhile Char.isDigit with
  | [] =>
    let n := Text.natOfDigits digits
    .ok (if mark = '/' then .every n else if mark = '+' then .further n else .stop n)
  | rest =>
    refuse ("tab size contains invalid character(s): " ++ Misuse.marked rest)

def ascend : List Nat → Bool
  | a :: b :: rest => a < b && ascend (b :: rest)
  | _ => true

def ofLists (lists : List Text) : Except Misuse TabStops := do
  let words := lists.flatMap fun list =>
    (list.splitBy fun a b => (a == ',' || isGap a) == (b == ',' || isGap b)).filter fun word =>
      !word.all fun c => c == ',' || isGap c
  let items ← words.mapM itemOf
  let stops := items.filterMap fun
    | .stop column => some column
    | _ => none
  if stops.contains 0 then refuse "tab size cannot be 0"
  if !ascend stops then refuse "tab sizes must be ascending"
  let last := stops.getLast?.getD 0
  let beyond : List TabStops := items.filterMap fun
    | .every size => if size = 0 then none else some { stops, size := some size }
    | .further size => if size = 0 then none else some { stops, size := some size, start := last }
    | .stop _ => none
  match beyond.getLast?, stops with
  | some tabs, _ => return tabs
  | none, [] => return { stops := [], size := some 8 }
  | none, [size] => return { stops := [], size := some size }
  | none, stops => return { stops, size := none }

/-- Text with spaces in the place of tabs; only those in front of anything else if that is asked
for. `active` says whether tabs of the line at hand are still looked at. -/
def spaced (tabs : TabStops) (initial : Bool) (column : Nat) (active : Bool) : Text → Text
  | [] => []
  | c :: rest =>
    if c = '\n' then '\n' :: tabs.spaced initial 0 true rest
    else if !active then c :: tabs.spaced initial column false rest
    else if c = '\t' then
      let stop := (tabs.behind? column).getD (column + 1)
      List.replicate (stop - column) ' ' ++ tabs.spaced initial stop true rest
    else if c = '\x08' then c :: tabs.spaced initial (column - 1) (!initial) rest
    else c :: tabs.spaced initial (column + 1) (!initial || c == ' ') rest

/-- What is known of a line whose spaces become tabs. -/
structure Blanks where
  column : Nat := 0
  /-- The blanks that are kept back, the last one first. -/
  pending : Text := []
  /-- Whether the first of those stands alone before a stop. -/
  lone : Bool := false
  /-- Whether the character before was a blank. -/
  behindBlank : Bool := true
  /-- Whether blanks of the line are still looked at. -/
  active : Bool := true

/-- The blanks that were kept back, as they are printed. -/
def Blanks.flushed (blanks : Blanks) : Text :=
  let pending := blanks.pending.reverse
  if 1 < pending.length ∧ blanks.lone then '\t' :: pending.tail else pending

def tabbed (tabs : TabStops) (all : Bool) (blanks : Blanks) : Text → Text
  | [] => blanks.flushed
  | c :: rest =>
    if !blanks.active then
      c :: tabs.tabbed all (if c = '\n' then {} else blanks) rest
    else
      let isBlank := c == ' ' || c == '\t'
      let goesOn (blanks : Blanks) (c : Char) : Text :=
        blanks.flushed ++ c :: tabs.tabbed all (if c = '\n' then {} else
          { blanks with
            pending := [], lone := false, behindBlank := isBlank
            active := blanks.active && (all || isBlank) }) rest
      if c = '\x08' then goesOn { blanks with column := blanks.column - 1 } c
      else if !isBlank then goesOn { blanks with column := blanks.column + 1 } c
      else match tabs.behind? blanks.column with
        | none => goesOn { blanks with active := false } c
        | some stop =>
          let kept (pending : Text) : Text := if blanks.lone then pending.reverse.take 1 else []
          let withTab (pending : Text) : Text :=
            (if pending.isEmpty then pending else '\t' :: pending.reverse.tail).reverse
          if c = '\t' then
            goesOn { blanks with column := stop, pending := kept (withTab blanks.pending) } '\t'
          else
            let column := blanks.column + 1
            if blanks.behindBlank ∧ column = stop then
              goesOn { blanks with column, pending := kept (withTab blanks.pending) } '\t'
            else
              tabs.tabbed all { blanks with
                column, behindBlank := true, pending := c :: blanks.pending
                lone := blanks.lone || column == stop } rest

end TabStops

end Agenda.Shell.Filter
