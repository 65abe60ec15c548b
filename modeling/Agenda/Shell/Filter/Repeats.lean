import Agenda.Shell.Filter

/-!
# Repeated lines

What `uniq` prints: lines that are equal to the ones before them only once, or only those, or with
their number.
-/

namespace Agenda.Shell.Filter

/-- Where empty lines stand around groups of lines. -/
inductive GroupGap
  | none
  | before
  | between
  | behind
  | around
deriving DecidableEq

/-- What is printed of equal lines next to each other. -/
structure Repeats where
  skippedFields : Nat
  skippedSigns : Nat
  compared : Option Nat
  ignoresCase : Bool
  mark : Char
  counted : Bool
  /-- Whether lines that have no equal one beside them are printed. -/
  single : Bool
  /-- Whether one of several equal lines is printed, and whether the others are. -/
  once : Bool
  others : Bool
  /-- Whether all lines are printed, in groups. -/
  grouped : Bool
  gap : GroupGap

namespace Repeats

/-- A line without its first fields. -/
def skipFields : Nat → Text → Text
  | 0, line => line
  | count + 1, line =>
    let isBlank (c : Char) : Bool := c == ' ' || c == '\t' || c == '\n'
    skipFields count ((line.dropWhile isBlank).dropWhile fun c => !isBlank c)

/-- The part of a line that is compared with that of other lines. -/
def key (repeats : Repeats) (line : Text) : Text :=
  let line := (skipFields repeats.skippedFields line).drop repeats.skippedSigns
  let line := match repeats.compared with
    | some count => line.take count
    | none => line
  if repeats.ignoresCase then line.map Char.toLower else line

/-- Lines in groups of equal ones. -/
def groups (repeats : Repeats) : List Text → List (List Text)
  | [] => []
  | line :: rest =>
    match repeats.groups rest with
    | (next :: group) :: others =>
      if repeats.key next = repeats.key line then (line :: next :: group) :: others
      else [line] :: (next :: group) :: others
    | others => [line] :: others

def shown (repeats : Repeats) (group : List Text) : List Text :=
  let chosen :=
    if repeats.grouped then group
    else if group.length ≤ 1 then if repeats.single then group else []
    else if repeats.others then
      group.dropLast ++ if repeats.once then group.getLast?.toList else []
    else if repeats.once then group.take 1 else []
  if repeats.counted then
    chosen.map fun line => column 7 (Text.ofNat group.length) ++ ' ' :: line
  else chosen

def lines (repeats : Repeats) (all : List Text) : List Text :=
  let shownGroups := (repeats.groups all).filterMap fun group =>
    let lines := repeats.shown group
    if lines.isEmpty then none else some lines
  match repeats.gap with
  | .none => shownGroups.flatten
  | .before => shownGroups.flatMap ([] :: ·)
  | .between => shownGroups.intersperse [[]] |>.flatten
  | .behind => shownGroups.flatMap (· ++ [[]])
  | .around =>
    if shownGroups.isEmpty then [] else [] :: shownGroups.flatMap (· ++ [[]])

def of (repeats : Repeats) (t : Text) : Text :=
  printedAt repeats.mark (repeats.lines (linesAt repeats.mark t))

def numberOf (what value : Text) : Except Misuse Nat :=
  match whole? value with
  | some n => .ok n
  | none => refuse (value ++ ": invalid " ++ what)

/-- The place of empty lines that a word names. -/
def gapOf (option : Text) (names : List (Text × GroupGap)) (value : Text) :
    Except Misuse GroupGap :=
  match names.filter fun (name, _) => Text.startsWith value name with
  | [(_, gap)] => .ok gap
  | found =>
    let fault : Text := if found.isEmpty then "invalid" else "ambiguous"
    .error (.other (((fault ++ " argument " ++ Misuse.marked value ++ " for " ++
      Misuse.marked option) :: "Valid arguments are:" ::
        names.map fun (name, _) => ("  - " ++ Misuse.marked name : Text))) true)

def ofOptions (options : Options) : Except Misuse Repeats := do
  let number (letter : Char) (what : Text) : Except Misuse (Option Nat) :=
    (options.value? letter).mapM (numberOf what)
  let fields ← number 'f' "number of fields to skip"
  let obsolete ← number 'n' "number of fields to skip"
  let signs ← number 's' "number of bytes to skip"
  let compared ← number 'w' "number of bytes to compare"
  let forAll : List (Text × GroupGap) :=
    [("none", .none), ("prepend", .before), ("separate", .between)]
  let forGroups : List (Text × GroupGap) :=
    [("prepend", .before), ("append", .behind), ("separate", .between), ("both", .around)]
  let all ← match options.value? 'A' with
    | none | some [] => pure GroupGap.none
    | some value => gapOf "--all-repeated" forAll value
  let grouped ← match options.value? 'G' with
    | none => pure GroupGap.none
    | some [] => pure GroupGap.between
    | some value => gapOf "--group" forGroups value
  let doubled := options.has 'D' || options.has 'A'
  if options.has 'G' ∧ (doubled || ['c', 'd', 'u'].any options.has) then
    refuseWithHint "--group is mutually exclusive with -c/-d/-D/-u"
  if options.has 'c' ∧ doubled then
    refuseWithHint "printing all duplicated lines and repeat counts is meaningless"
  return {
    skippedFields := (fields.or obsolete).getD 0
    skippedSigns := signs.getD 0
    compared
    ignoresCase := options.has 'i'
    mark := lineMark options
    counted := options.has 'c'
    single := !(options.has 'd' || doubled)
    once := !options.has 'u'
    others := doubled
    grouped := options.has 'G'
    gap := if options.has 'G' then grouped else all }

end Repeats

end Agenda.Shell.Filter
