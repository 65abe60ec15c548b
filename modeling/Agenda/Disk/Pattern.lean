import Agenda.Text.Substitute

/-!
# File name patterns

A pattern stands for a set of names: `*` for any text, `?` for one character, and a list in brackets
for one character that is in it, or not in it if the list starts with an exclamation mark. A dash in
a list makes a range of its neighbours; a range that goes downwards is left out of the list, before
it is looked at for an exclamation mark. A bracket without its partner stands for itself. Two stars
side by side are no pattern.
-/

namespace Agenda.Disk

/-- One part of a pattern. -/
inductive Glob
  | star
  | one
  /-- One character inside one of the ranges, or outside all of them. -/
  | class (negated : Bool) (ranges : List (Char × Char))
  | literal (c : Char)
deriving Repr, DecidableEq

namespace Glob

/-- A text and all that is left of it when characters are taken off its front. -/
def suffixes : Text → List Text
  | [] => [[]]
  | c :: rest => (c :: rest) :: suffixes rest

def inRanges (ranges : List (Char × Char)) (c : Char) : Bool :=
  ranges.any fun (low, high) => low ≤ c && c ≤ high

/-- Whether a whole name is in the set of a pattern. -/
def accepts : List Glob → Text → Bool
  | [], name => name.isEmpty
  | star :: rest, name => (suffixes name).any (accepts rest)
  | one :: _, [] => false
  | one :: rest, _ :: name => accepts rest name
  | .class _ _ :: _, [] => false
  | .class negated ranges :: rest, c :: name => (inRanges ranges c != negated) && accepts rest name
  | literal _ :: _, [] => false
  | literal l :: rest, c :: name => l == c && accepts rest name

/-- Lists with one more character in the first of them. -/
def consHead (c : Char) : List Text → List Text
  | [] => [[c]]
  | first :: rest => (c :: first) :: rest

/-- The inside of a bracket cut at the dashes that make ranges. A dash makes none if fewer than
`keep` characters are before it in its piece; behind a range there have to be two. -/
def cutAtDashes : (keep : Nat) → Text → List Text
  | _, [] => [[]]
  | 0, '-' :: rest => [] :: cutAtDashes 2 rest
  | keep, c :: rest => consHead c (cutAtDashes (keep - 1) rest)

/-- Pieces without an empty one at the end; the dash before that belongs to the piece before. -/
def closeLast : List Text → List Text
  | [piece, []] => [piece ++ ['-']]
  | [] => []
  | piece :: rest => piece :: closeLast rest

/-- Pieces without the ranges between them that go downwards. -/
def dropDownward : List Text → List Text
  | [] => []
  | piece :: rest =>
    match dropDownward rest with
    | [] => [piece]
    | next :: others =>
      match piece.getLast?, next with
      | some low, high :: behind =>
        if high < low then (piece.dropLast ++ behind) :: others else piece :: next :: others
      | _, _ => piece :: next :: others

/-- Pieces one behind the other, with `none` for a dash that makes a range. -/
def joinPieces : List Text → List (Option Char)
  | [] => []
  | [piece] => piece.map some
  | piece :: rest => piece.map some ++ none :: joinPieces rest

/-- The ranges of a list, with `none` for a dash that makes a range if it has two neighbours. -/
def rangesOf : List (Option Char) → List (Char × Char)
  | [] => []
  | some low :: none :: some high :: rest => (low, high) :: rangesOf rest
  | some c :: rest => (c, c) :: rangesOf rest
  | none :: rest => ('-', '-') :: rangesOf rest

/-- The part of a pattern that the inside of a bracket stands for. -/
def ofBracket (inside : Text) : Glob :=
  let pieces := cutAtDashes (if inside.head? = some '!' then 2 else 1) inside
  match joinPieces (dropDownward (closeLast pieces)) with
  | some '!' :: rest => .class true (rangesOf rest)
  | list => .class false (rangesOf list)

/-- The inside of a bracket and what is behind it, if the bracket is closed. The first character
of the list, behind an exclamation mark, may be a closing bracket itself. -/
def cutBracket? (t : Text) : Option (Text × Text) :=
  let (mark, t) := match t with
    | '!' :: rest => (['!'], rest)
    | _ => ([], t)
  match t with
  | [] => none
  | c :: rest => (Text.cutAt? ']' rest).map fun (inside, behind) => (mark ++ c :: inside, behind)

/-- The parts of a pattern, the first `skip` characters of which have been read already. -/
def parseFrom : Nat → Text → List Glob
  | _, [] => []
  | skip + 1, _ :: rest => parseFrom skip rest
  | 0, '*' :: rest => star :: parseFrom 0 rest
  | 0, '?' :: rest => one :: parseFrom 0 rest
  | 0, '[' :: rest =>
    match cutBracket? rest with
    | none => literal '[' :: parseFrom 0 rest
    | some (inside, behind) => ofBracket inside :: parseFrom (rest.length - behind.length) rest
  | 0, c :: rest => literal c :: parseFrom 0 rest

def parse (pattern : Text) : List Glob := parseFrom 0 pattern

/-- The parts of a text, if it is a pattern. -/
def parse? (pattern : Text) : Option (List Glob) :=
  if Text.occursIn "**" pattern then none else some (parse pattern)

theorem mem_suffixes_self (t : Text) : t ∈ suffixes t := by cases t <;> simp [suffixes]

theorem mem_suffixes_append (s t : Text) : t ∈ suffixes (s ++ t) := by
  induction s with
  | nil => exact mem_suffixes_self t
  | cons c rest ih => simp [suffixes, ih]

/-- A closing bracket right at the start of a list is a member of it. -/
example : accepts (parse "a[]b]".toList) "a]".toList := by decide

example : accepts (parse "x[1-3].*".toList) "x2.log".toList ∧
    ¬ accepts (parse "x[!1-3].*".toList) "x2.log".toList := by decide

/-- A range that goes downwards is left out, and an exclamation mark behind it comes first. -/
example : ofBracket "c-a!b".toList = .class true [('b', 'b')] := by decide

end Glob

end Agenda.Disk
