import Agenda.Text.Basic

/-!
# Regular expressions in scripts

What the regular expressions of `sed` and `grep` stand for. Of the matches that start at one place
the longest counts, and of the places the first.
-/

namespace Agenda.Shell

/-- A place between two characters that an expression can ask for. -/
inductive Edge
  /-- Where the text starts or stops, also if every line of it counts by itself. -/
  | textStart
  | textStop
  | start
  | stop
  | lineStart
  | lineStop
  | wordStart
  | wordStop
  | wordSide
  | noWordSide
  /-- Where no character of a word stands before, or behind. -/
  | freeBefore
  | freeBehind
deriving Repr

/-- A regular expression. A repetition has a least number and perhaps a greatest one. -/
inductive Expression
  | empty
  | any
  | oneOf (negated : Bool) (ranges : List (Char × Char))
  | side (edge : Edge)
  | group (number : Nat) (inside : Expression)
  | again (number : Nat)
  | chain (first second : Expression)
  | either (first second : Expression)
  | repeated (inside : Expression) (least : Nat) (most : Option Nat)
  /-- Any text that another expression does not accept. -/
  | except (inside : Expression)
deriving Repr

/-- A place that a match has come to: the character before it, the text behind it, and the texts of
the groups so far. -/
structure Spot where
  before : Option Char
  rest : Text
  groups : List (Nat × Text)
deriving DecidableEq

/-- Where an expression is found in a text. -/
structure Match where
  skipped : Text
  found : Text
  groups : List (Nat × Text)
  behind : Text

def isWordSign (c : Char) : Bool := c.isAlphanum || c == '_'

def Edge.isAt (edge : Edge) (spot : Spot) : Bool :=
  let left := spot.before.any isWordSign
  let right := spot.rest.head?.any isWordSign
  match edge with
  | .textStart | .start => spot.before.isNone
  | .textStop | .stop => spot.rest.isEmpty
  | .lineStart => spot.before.all (· == '\n')
  | .lineStop => spot.rest.head?.all (· == '\n')
  | .freeBefore => !left
  | .freeBehind => !right
  | .wordStart => !left && right
  | .wordStop => left && !right
  | .wordSide => left != right
  | .noWordSide => left == right

/-- The spot behind the next character, if it is a good one. -/
def Spot.step (good : Char → Bool) (spot : Spot) : List Spot :=
  match spot.rest with
  | c :: rest => if good c then [{ spot with before := some c, rest }] else []
  | [] => []

def Spot.skip (same : Char → Char → Bool) : Text → Spot → List Spot
  | [], spot => [spot]
  | c :: t, spot => (spot.step (same c)).flatMap (skip same t)

namespace Expression

def char (c : Char) : Expression := .oneOf false [(c, c)]

def ofText (t : Text) : Expression := t.foldr (fun c e => .chain (char c) e) .empty

/-- An expression for which every line of a text counts by itself. -/
def byLines : Expression → Expression
  | .side .start => .side .lineStart
  | .side .stop => .side .lineStop
  | .group number inside => .group number inside.byLines
  | .chain first second => .chain first.byLines second.byLines
  | .either first second => .either first.byLines second.byLines
  | .repeated inside least most => .repeated inside.byLines least most
  | e => e

/-- Whether two characters are the same, with case ignored if asked to. -/
def same (fold : Bool) (c d : Char) : Bool := c == d || fold && c.toLower == d.toLower

def inRanges (fold : Bool) (ranges : List (Char × Char)) (c : Char) : Bool :=
  let within (c : Char) : Bool := ranges.any fun (low, high) => low ≤ c && c ≤ high
  within c || fold && (within c.toLower || within c.toUpper)

/-- The spots behind a number of steps, those behind more steps first. A step that gets nowhere is
only made while the least number has not been reached. -/
def iterate (step : Spot → List Spot) : Nat → Nat → Option Nat → Spot → List Spot
  | 0, _, _, spot => [spot]
  | fuel + 1, least, most, spot =>
    let further :=
      if most = some 0 then []
      else
        let next := (step spot).filter fun after =>
          least ≠ 0 || after.rest.length < spot.rest.length
        let onwards := iterate step fuel (least - 1) (most.map (· - 1))
        match next with
        | [after] => onwards after
        | next => (next.flatMap onwards).eraseDups
    if least = 0 then further ++ [spot] else further

/-- The spots where a match that starts at a spot can end, the preferred ones first. -/
def ends (fold : Bool) : Expression → Spot → List Spot
  | .empty, spot => [spot]
  | .any, spot => spot.step fun _ => true
  | .oneOf negated ranges, spot => spot.step fun c => inRanges fold ranges c != negated
  | .side edge, spot => if edge.isAt spot then [spot] else []
  | .group number inside, spot =>
    (ends fold inside spot).map fun after =>
      let t := spot.rest.take (spot.rest.length - after.rest.length)
      { after with groups := (number, t) :: after.groups.filter (·.1 ≠ number) }
  | .again number, spot =>
    match spot.groups.lookup number with
    | some t => Spot.skip (same fold) t spot
    | none => []
  | .chain first second, spot => ((ends fold first spot).flatMap (ends fold second)).eraseDups
  | .either first second, spot => ends fold first spot ++ ends fold second spot
  | .repeated inside least most, spot =>
    iterate (ends fold inside) (spot.rest.length + least + 1) least most spot
  | .except inside, spot =>
    let taken := (ends fold inside spot).map (·.rest.length)
    let lengths := (List.range (spot.rest.length + 1)).reverse.filter fun length =>
      !taken.contains (spot.rest.length - length)
    lengths.map fun length =>
      { spot with
        before := (spot.rest.take length).getLast?.or spot.before
        rest := spot.rest.drop length }

def longest? (fold : Bool) (e : Expression) (spot : Spot) : Option Spot :=
  (ends fold e spot).foldl (fun best after =>
    match best with
    | some found => if after.rest.length < found.rest.length then some after else best
    | none => some after) none

/-- The first match in a text; `before` is the character in front of the text. -/
def find? (fold : Bool) (e : Expression) : Option Char → Text → Option Match
  | before, t =>
    match longest? fold e ⟨before, t, []⟩, t with
    | some spot, _ =>
      some ⟨[], t.take (t.length - spot.rest.length), spot.groups, spot.rest⟩
    | none, [] => none
    | none, c :: rest =>
      (find? fold e (some c) rest).map fun found => { found with skipped := c :: found.skipped }

/-- Whether an expression is found in a line. -/
def occurs (fold : Bool) (e : Expression) (t : Text) : Bool := (find? fold e none t).isSome

/-- The matches in a line that hold anything. -/
def matches? (fold : Bool) (e : Expression) : Nat → Option Char → Text → List Text
  | 0, _, _ => []
  | fuel + 1, before, t =>
    match find? fold e before t with
    | none => []
    | some found =>
      match found.found.getLast?, found.behind with
      | some c, behind => found.found :: matches? fold e fuel (some c) behind
      | none, c :: behind => matches? fold e fuel (some c) behind
      | none, [] => []

end Expression

/-- How the letters of a replacement are to be written: the next one, and all of them. Each is
capitals or small letters, if anything. -/
structure Casing where
  once : Option Bool := none
  always : Option Bool := none

def Casing.letter (capital : Option Bool) (c : Char) : Char :=
  match capital with
  | some true => c.toUpper
  | some false => c.toLower
  | none => c

def Casing.apply (casing : Casing) : Text → Text × Casing
  | [] => ([], casing)
  | c :: rest =>
    (letter (casing.once.or casing.always) c :: rest.map (letter casing.always),
      { casing with once := none })

/-- The text that takes the place of a match. An ampersand stands for the match, and a digit behind
a backslash for a group. -/
def Match.expand (found : Match) : Casing → Text → Text
  | _, [] => []
  | casing, '\\' :: c :: rest =>
    match c with
    | 'L' => expand found ⟨none, some false⟩ rest
    | 'U' => expand found ⟨none, some true⟩ rest
    | 'E' => expand found {} rest
    | 'l' => expand found { casing with once := some false } rest
    | 'u' => expand found { casing with once := some true } rest
    | 'n' => '\n' :: expand found casing rest
    | 't' => '\t' :: expand found casing rest
    | c =>
      let t := if c = '0' then found.found
        else if c.isDigit then (found.groups.lookup (c.toNat - '0'.toNat)).getD [] else [c]
      let (t, casing) := casing.apply t
      t ++ expand found casing rest
  | casing, c :: rest =>
    let (t, casing) := casing.apply (if c = '&' then found.found else [c])
    t ++ expand found casing rest

structure Replacement where
  old : Expression
  fold : Bool
  new : Text
  /-- Which match is the first to be replaced, counted from one. -/
  first : Nat
  /-- Whether the matches behind that one are replaced too. -/
  everywhere : Bool

namespace Replacement

/-- The line with matches replaced, and whether there was one to replace. Matches are counted by
`count`; `touching` says that a match ends right here, where an empty one does not count. -/
def applyFrom (change : Replacement) : Nat → Nat → Option Char → Bool → Text → Text × Bool
  | 0, _, _, _, t => (t, false)
  | fuel + 1, count, before, touching, t =>
    match Expression.find? change.fold change.old before t with
    | none => (t, false)
    | some found =>
      let counts := !(touching && found.skipped.isEmpty && found.found.isEmpty)
      let replaced := counts && change.first ≤ count
      let here := found.skipped ++ if replaced then found.expand {} change.new else found.found
      let next := if counts then count + 1 else count
      if replaced && !change.everywhere then (here ++ found.behind, true)
      else match found.found.getLast?, found.behind with
        | some c, behind =>
          let (t, also) := change.applyFrom fuel next (some c) true behind
          (here ++ t, replaced || also)
        | none, c :: behind =>
          let (t, also) := change.applyFrom fuel next (some c) false behind
          (here ++ c :: t, replaced || also)
        | none, [] => (here, replaced)

/-- The line with matches replaced, and whether there was one to replace. -/
def apply (change : Replacement) (t : Text) : Text × Bool :=
  change.applyFrom (t.length + 1) 1 none false t

end Replacement

end Agenda.Shell
