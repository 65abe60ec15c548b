import Agenda.Shell.Expression.Reader
import Agenda.Shell.Filter

/-!
# Searching lines

How `grep` looks for the lines in which an expression is found.
-/

namespace Agenda.Shell.Filter

/-- What is looked for. -/
structure Search where
  wanted : Expression
  fold : Bool
  /-- Whether the lines are wanted in which the expression is not found. -/
  others : Bool
  most : Option Nat

namespace Search

/-- The expression of several patterns, of which one has to be found. -/
def wantedOf (options : Options) (patterns : List Text) : Expression.Reading Expression := do
  let read (t : Text) : Expression.Reading Expression :=
    if options.has 'F' then .ok (.ofText t)
    else Expression.read (.searching (options.has 'E' || options.has 'P')) t
  let each ← (patterns.flatMap Text.lines).mapM read
  let whole := match each with
    | [] => .empty
    | e :: rest => rest.foldl .either e
  if options.has 'x' then
    return .chain (.side .start) (.chain (.group 0 whole) (.side .stop))
  else if options.has 'w' then
    return .chain (.side .freeBefore) (.chain (.group 0 whole) (.side .freeBehind))
  else return whole

/-- What some options and patterns look for, or the words about what is wrong with them. -/
def ofOptions (options : Options) (patterns : List Text) : Except Text Search := do
  let wanted ← (wantedOf options patterns).mapError Expression.Fault.words
  let most ← match options.value? 'm' with
    | some count =>
      match amount? count with
      | some count => pure (some count)
      | none => throw ("invalid max count" : Text)
    | none => pure none
  return { wanted, fold := options.has 'i' || options.has 'y', others := options.has 'v', most }

def wants (search : Search) (line : Text) : Bool :=
  search.wanted.occurs search.fold line != search.others

/-- The lines with their numbers and whether they are wanted, up to the last one that may be. -/
def marked (search : Search) (t : Text) : List (Nat × Bool × Text) :=
  let all := (linesOf t).zipIdx 1 |>.map fun (line, n) => (n, search.wants line, line)
  match search.most with
  | none => all
  | some most =>
    let places := (all.filter fun (_, wanted, _) => wanted).map (·.1)
    match (places.take most).getLast? with
    | some last => if places.length < most then all else all.take last
    | none => if most = 0 then [] else all

/-- The number of wanted lines. -/
def count (search : Search) (t : Text) : Nat :=
  (search.marked t).countP fun (_, wanted, _) => wanted

/-- The lines that are printed around the wanted ones; a gap is a line of dashes. -/
def around (before after : Nat) (lines : List (Nat × Bool × Text)) :
    List (Option (Nat × Bool × Text)) :=
  let places := (lines.filter fun (_, wanted, _) => wanted).map (·.1)
  let shown := lines.filter fun (n, _, _) =>
    places.any fun place => place ≤ n + before && n ≤ place + after
  let pairs := shown.zip (none :: shown.map some)
  pairs.flatMap fun (line, previous) =>
    match previous with
    | some (n, _, _) =>
      if n + 1 < line.1 && before + after != 0 then [none, some line] else [some line]
    | none => [some line]

/-- What is printed for one file, with a title before every line if there is one. -/
def shown (search : Search) (options : Options) (title : Option Text) (t : Text) : List Text :=
  let number (letter : Char) : Nat :=
    (((options.value? letter).or (options.value? 'C')).bind amount?).getD 0
  let head (mark : Char) (n : Nat) : Text :=
    ((title.map (· ++ [mark])).getD []) ++
      if options.has 'n' then Text.ofNat n ++ [mark] else []
  let lines := search.marked t
  if options.has 'o' then
    if search.others then []
    else lines.flatMap fun (n, wanted, line) =>
      if wanted then
        (search.wanted.matches? search.fold (line.length + 1) none line).map (head ':' n ++ ·)
      else []
  else (around (number 'B') (number 'A') lines).map fun
    | none => ['-', '-']
    | some (n, wanted, line) => head (if wanted then ':' else '-') n ++ line

def printedFor (search : Search) (options : Options) (several : Bool)
    (files : List (Text × Text)) : List Text :=
  let titled := options.has 'H' || (several && !options.has 'h')
  files.flatMap fun (name, t) =>
    let name : Text := if name.isEmpty then "(standard input)".toList else name
    let title := if titled then some name else none
    if options.has 'l' then if search.count t != 0 then [name] else []
    else if options.has 'L' then if search.count t = 0 then [name] else []
    else if options.has 'c' then
      [((title.map (· ++ [':'])).getD []) ++ Text.ofNat (search.count t)]
    else search.shown options title t

end Search

end Agenda.Shell.Filter
