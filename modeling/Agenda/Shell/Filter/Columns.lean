import Agenda.Shell.Filter

/-!
# Columns of lines

How `cut` takes bytes or fields out of lines, and how `paste` puts lines beside each other. Main
statement: the ranges of a list hold the numbers that it names.
-/

namespace Agenda.Shell.Filter

/-- Numbers from a first one to a last one, which may be open. -/
structure NumberRange where
  first : Nat
  last : Option Nat
deriving DecidableEq

namespace NumberRange

def holds (range : NumberRange) (n : Nat) : Bool := range.first ≤ n && range.last.all (n ≤ ·)

/-- What is said about a list of bytes, or of fields. -/
structure Words where
  number : Text
  range : Text
  value : Text
  tooLarge : Text

/-- What is said about a list. -/
def words (ofFields : Bool) : Words :=
  if ofFields then
    ⟨"fields are numbered from 1", "invalid field range", "invalid field value ",
      "field number "⟩
  else
    ⟨"byte/character positions are numbered from 1", "invalid byte or character range",
      "invalid byte/character position ", "byte/character offset "⟩

def numberOf (words : Words) (digits : Text) : Except Misuse Nat :=
  let n := Text.natOfDigits digits
  if n < 18446744073709551615 then .ok n
  else refuseWithHint (words.tooLarge ++ Misuse.marked digits ++ " is too large")

/-- Reads one item of a list: a number, or two with a dash between them, each of which may be
missing. What is behind the item is given as well, for what is said about it. -/
def ofItem (words : Words) (item behind : Text) : Except Misuse NumberRange := do
  let first := item.takeWhile Char.isDigit
  match item.drop first.length with
  | [] =>
    let n ← numberOf words first
    if n = 0 then refuseWithHint words.number else return ⟨n, some n⟩
  | '-' :: rest =>
    let low ← numberOf words first
    if !first.isEmpty ∧ low = 0 then refuseWithHint words.number
    let last := rest.takeWhile Char.isDigit
    let high ← numberOf words last
    match rest.drop last.length with
    | [] =>
      if first.isEmpty ∧ last.isEmpty then
        refuseWithHint "invalid range with no endpoint: -"
      else
        let low := if first.isEmpty then 1 else low
        if last.isEmpty then return ⟨low, none⟩
        else if high < low then refuseWithHint "invalid decreasing range"
        else return ⟨low, some high⟩
    | '-' :: _ => refuseWithHint words.range
    | rest => refuseWithHint (words.value ++ Misuse.marked (rest ++ behind))
  | rest => refuseWithHint (words.value ++ Misuse.marked (rest ++ behind))

/-- Whether a character parts the items of a list. -/
def isComma (c : Char) : Bool := c == ',' || c == ' ' || c == '\t'

/-- The items of a list, each with all that is behind it. -/
def items : Text → List (Text × Text)
  | [] => [([], [])]
  | c :: rest =>
    if isComma c then ([], c :: rest) :: items rest
    else match items rest with
      | (item, behind) :: others => (c :: item, behind) :: others
      | [] => [([c], [])]

def listOf (words : Words) (t : Text) : Except Misuse (List NumberRange) :=
  (items t).mapM fun (item, behind) => ofItem words item behind

end NumberRange

/-- What is taken out of lines. -/
structure Picking where
  ranges : List NumberRange
  /-- Whether what is not listed is taken. -/
  others : Bool
  /-- What parts fields; bytes are taken where there is nothing. -/
  separator : Option Char
  /-- What is printed between what is taken. -/
  between : Option Text
  /-- Whether lines without separator are left out. -/
  onlyParted : Bool
  mark : Char

namespace Picking

/-- Whether the item of a number is taken. -/
def takes (picking : Picking) (n : Nat) : Bool :=
  picking.ranges.any (·.holds n) != picking.others

def pick {α : Type} (picking : Picking) (items : List α) : List α :=
  (items.zipIdx 1).filterMap fun (item, n) => if picking.takes n then some item else none

/-- Whether a range starts at a number that the one before is not in. -/
def starts (picking : Picking) (n : Nat) : Bool :=
  let overlaps := picking.ranges.any fun range => range.first < n && range.last.all (n ≤ ·)
  if picking.others then !picking.takes (n - 1)
  else picking.ranges.any (·.first = n) && !overlaps

/-- The bytes of a line that are taken, with something between those of different ranges. -/
def bytes (picking : Picking) (line : Text) : Text :=
  match picking.between with
  | none => picking.pick line
  | some between =>
    ((line.zipIdx 1).foldl (fun (t, isFirst) (c, n) =>
      if !picking.takes n then (t, isFirst)
      else if picking.starts n ∧ !isFirst then (c :: (between.reverse ++ t), false)
      else (c :: t, false)) (([] : Text), true)).1.reverse

/-- What is taken out of a line, if it is not left out. -/
def line? (picking : Picking) (line : Text) : Option Text :=
  match picking.separator with
  | none => some (picking.bytes line)
  | some separator =>
    if line.contains separator then
      some (Text.join (picking.between.getD [separator]) (picking.pick (line.splitOn separator)))
    else if picking.onlyParted then none
    else some line

def of (picking : Picking) (t : Text) : Text :=
  if picking.separator = some picking.mark then
    let lines := linesAt picking.mark t
    match lines with
    | [] => []
    | [line] => if picking.onlyParted then [] else line ++ [picking.mark]
    | lines => Text.join (picking.between.getD [picking.mark]) (picking.pick lines) ++
        [picking.mark]
  else printedAt picking.mark ((linesAt picking.mark t).filterMap picking.line?)

def ofOptions (options : Options) : Except Misuse Picking := do
  let lists := options.filter fun option => option.1 = 'b' || option.1 = 'c' || option.1 = 'f'
  if 1 < lists.length then refuseWithHint "only one list may be specified"
  let separator ← match options.value? 'd' with
    | none => pure none
    | some [] => pure (some '\x00')
    | some value =>
      match raw value with
      | [c] => pure (some c)
      | _ => refuseWithHint "the delimiter must be a single character"
  match lists with
  | [] => refuseWithHint "you must specify a list of bytes, characters, or fields"
  | (letter, list) :: _ =>
    let ofFields : Bool := letter = 'f'
    if !ofFields ∧ separator.isSome then
      refuseWithHint "an input delimiter may be specified only when operating on fields"
    if !ofFields ∧ options.has 's' then
      refuseWithHint
        "suppressing non-delimited lines makes sense\n\tonly when operating on fields"
    return {
      ranges := ← NumberRange.listOf (NumberRange.words ofFields) list
      others := options.has 'C'
      separator := if ofFields then some (separator.getD '\t') else none
      between := (options.value? 'o').map fun t => if t.isEmpty then ['\x00'] else raw t
      onlyParted := options.has 's'
      mark := lineMark options }

end Picking

/-- How lines are put beside each other. -/
structure Pasting where
  /-- What stands between columns, one after the other. -/
  separators : List Text
  /-- Whether the lines of each file are put in one line. -/
  serial : Bool
  mark : Char

namespace Pasting

/-- Cells with separators between them; `n` counts those. -/
def row (pasting : Pasting) (n : Nat) : List Text → Text
  | [] => []
  | [cell] => cell
  | cell :: cells =>
    cell ++ (pasting.separators[n % pasting.separators.length]?).getD [] ++
      pasting.row (n + 1) cells

/-- Rows of several columns, at most `count` of them. -/
def rows (pasting : Pasting) : Nat → List (List Text) → List Text
  | 0, _ => []
  | count + 1, columns =>
    if columns.all List.isEmpty then []
    else pasting.row 0 (columns.map fun column => column.headD []) ::
      pasting.rows count (columns.map List.tail)

/-- The lines of several files beside each other. Files that are one share its lines. -/
def beside (pasting : Pasting) (columns : List (List Text)) : Text :=
  printedAt pasting.mark
    (pasting.rows ((columns.map List.length).foldl max 0 + 1) columns)

/-- The lines of a file in one line. -/
def joined (pasting : Pasting) (t : Text) : Text :=
  pasting.row 0 (linesAt pasting.mark t) ++ [pasting.mark]

/-- Every `count`th of some items from one on. -/
def everyNth {α : Type} (count first : Nat) (items : List α) : List α :=
  (items.zipIdx.filter fun (_, n) => n % count = first).map (·.1)

/-- The columns of some files, those of which that are the input share its lines. -/
def columns (pasting : Pasting) (files : List (Text × Text)) : List (List Text) :=
  let isShared (file : Text × Text) : Bool := file.1 == ['-']
  let count := (files.filter isShared).length
  let shared := linesAt pasting.mark ((files.filter isShared).flatMap (·.2))
  (files.foldl (fun (n, columns) file =>
    if isShared file then (n + 1, columns ++ [everyNth count n shared])
    else (n, columns ++ [linesAt pasting.mark file.2])) (0, [])).2

def separatorsOf : Text → Option (List Text)
  | [] => some []
  | ['\\'] => none
  | '\\' :: c :: rest =>
    let separator : Text := if c = '0' then [] else [(escaped? c).getD c]
    (separatorsOf rest).map (separator :: ·)
  | c :: rest => (separatorsOf rest).map ([c] :: ·)

def ofOptions (options : Options) : Except Misuse Pasting := do
  let list := raw (valueOr options 'd' "\t")
  match separatorsOf list with
  | none => refuse ("delimiter list ends with an unescaped backslash: " ++ valueOr options 'd' [])
  | some separators => return {
      separators := if separators.isEmpty then [[]] else separators
      serial := options.has 's'
      mark := lineMark options }

end Pasting

end Agenda.Shell.Filter
