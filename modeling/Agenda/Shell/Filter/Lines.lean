import Agenda.Shell.Expression.Reader
import Agenda.Shell.FilterTool.Basic

/-!
# Lines picked, turned and counted

What `head` and `tail` print: the first or the last lines or bytes of files. What `tac` and `rev`
print: the records of files in the opposite order, and lines with their characters in the opposite
order. What `wc` prints: the numbers of lines, words, characters and bytes of files, and the length
of their longest lines.
-/

namespace Agenda.Shell.Filter

/-! ### Beginnings and ends -/

/-- A part of some items: a number of them at one end, or all but a number of them at the other one.
-/
inductive Extent
  | first (count : Nat)
  | allButLast (count : Nat)
  | last (count : Nat)
  /-- Those from a number on, counted from one. -/
  | fromNumber (number : Nat)

namespace Extent

/-- The number of items in front of a part, and in it and in front of it. -/
def bounds (extent : Extent) (size : Nat) : Nat × Nat :=
  match extent with
  | first count => (0, count)
  | allButLast count => (0, size - count)
  | last count => (size - count, size)
  | fromNumber number => (number - 1, size)

def of {α : Type} (extent : Extent) (items : List α) : List α :=
  let (start, stop) := extent.bounds items.length
  (items.take stop).drop start

def behind {α : Type} (extent : Extent) (items : List α) : List α :=
  items.drop (extent.bounds items.length).2

def ofFront (what value : Text) : Except Misuse Extent :=
  match value with
  | '-' :: value => (amount what value).map allButLast
  | value => (amount what value).map first

def ofBack (what value : Text) : Except Misuse Extent :=
  match value with
  | '-' :: value => (amount what value).map last
  | '+' :: _ => (amount what value).map fromNumber
  | value => (amount what value).map last

end Extent

/-- What is cut out of every file, and how it is shown. -/
structure Excerpt where
  extent : Extent
  ofBytes : Bool
  mark : Char
  /-- Whether the names of files stand above what is cut out of them. -/
  titled : Bool

namespace Excerpt

/-- What options ask for; `read` tells which part a value stands for. -/
def ofOptions (read : (what value : Text) → Except Misuse Extent) (options : Options)
    (files : Nat) : Except Misuse Excerpt := do
  let ofBytes := options.lastOf "nc" == some 'c'
  let values := options.filter fun option => option.1 = 'n' || option.1 = 'c'
  let extents ← values.mapM fun (letter, value) =>
    read (if letter = 'c' then "number of bytes" else "number of lines") value
  let default ← read "number of lines" "10"
  return {
    extent := extents.getLast?.getD default
    ofBytes
    mark := lineMark options
    titled := match options.lastOf "qv" with
      | some 'v' => true
      | some _ => false
      | none => files > 1 }

/-- What is cut out of raw text, and what is behind it. -/
def cut (excerpt : Excerpt) (t : Text) : Text × Text :=
  if excerpt.ofBytes then (excerpt.extent.of t, excerpt.extent.behind t)
  else
    let lines := fullLinesAt excerpt.mark t
    ((excerpt.extent.of lines).flatten, (excerpt.extent.behind lines).flatten)

/-- The line with the name of a file, and an empty one before it if it is not the first. -/
def title (excerpt : Excerpt) (isFirst : Bool) (name : Text) : Text :=
  if !excerpt.titled then []
  else
    let name : Text := if name.isEmpty || name == ['-'] then "standard input" else name
    (if isFirst then [] else ['\n']) ++ "==> " ++ name ++ " <==\n"

/-- The way through files. -/
def passing (excerpt : Excerpt) : Passing Bool where
  start := true
  step := fun isFirst name t => (false, excerpt.title isFirst name ++ (excerpt.cut t).1)
  refuse := fun isFirst path => (false, excerpt.title isFirst path, [])

end Excerpt

/-! ### Text turned round -/

/-- Some text cut at places, each of which is counted from the start of the text; `place` is where
the text starts. -/
def cutAtPlaces (place : Nat) (t : Text) : List Nat → List Text
  | [] => [t]
  | stop :: rest => t.take (stop - place) :: cutAtPlaces stop (t.drop (stop - place)) rest

structure Parting where
  /-- The length of what parts records at the start of a text behind a character, within a number of
  characters. -/
  lengthAt : Option Char → Text → (limit : Nat) → Option Nat
  /-- Whether it belongs to the record behind it. -/
  before : Bool

namespace Parting

/-- The characters of a text with their places and those before them, the last one first. -/
def spots (t : Text) : List (Nat × Option Char × Text) :=
  (t.foldl (fun (found, place, before, rest) c =>
    ((place, before, rest) :: found, place + 1, some c, rest.tail))
    (([] : List (Nat × Option Char × Text)), 0, none, t)).1

/-- Where the records of a text are parted, looked for from its end. -/
def places (parting : Parting) (t : Text) : List Nat :=
  ((spots t).foldl (fun (places, limit) (place, before, rest) =>
    match parting.lengthAt before rest (limit - place) with
    | some length =>
      if length = 0 then (places, limit)
      else ((if parting.before then place else place + length) :: places, place)
    | none => (places, limit)) (([] : List Nat), t.length)).1

/-- The records of a text in the opposite order. -/
def turned (parting : Parting) (t : Text) : Text :=
  (cutAtPlaces 0 t (parting.places t)).reverse.flatten

/-- An expression in which plain plus and question marks repeat, and those behind backslashes stand
for themselves, written the other way round. -/
def withMarkedRepeats : Text → Text
  | '\\' :: c :: rest =>
    (if c = '+' ∨ c = '?' then [c] else ['\\', c]) ++ withMarkedRepeats rest
  | c :: rest =>
    (if c = '+' ∨ c = '?' then ['\\', c] else [c]) ++ withMarkedRepeats rest
  | [] => []

def ofOptions (options : Options) : Except Misuse Parting := do
  let separator := raw (valueOr options 's' "\n")
  let before := options.has 'b'
  if options.has 'r' then
    if separator.isEmpty then refuse "separator cannot be empty"
    match Expression.read {} (withMarkedRepeats separator) with
    | .error _ => refuse "Invalid regular expression"
    | .ok e => return {
        before
        lengthAt := fun before rest limit =>
          let t := rest.take limit
          (Expression.longest? false e ⟨before, t, []⟩).map fun spot =>
            t.length - spot.rest.length }
  else
    let separator := if separator.isEmpty then ['\x00'] else separator
    return {
      before
      lengthAt := fun _ rest limit =>
        if separator.length ≤ limit ∧ Text.startsWith separator rest then some separator.length
        else none }

end Parting

/-- Every line with its characters in the opposite order. -/
def mirrored (t : Text) : Text :=
  let characters := (Text.ofBytes? (bytesOf t)).getD t
  raw (Text.unlines ((Text.lines characters).map List.reverse))

/-! ### Tallies -/

/-- What is counted in a text. -/
structure Tally where
  lines : Nat := 0
  words : Nat := 0
  characters : Nat := 0
  bytes : Nat := 0
  longest : Nat := 0

namespace Tally

/-- The number of words: of the places where a word starts. -/
def wordCount (t : Text) : Nat :=
  (t.zip (' ' :: t)).countP fun (c, before) => !isGap c && isGap before

/-- The number of characters that some raw text writes. -/
def characterCount (t : Text) : Nat := t.countP fun c => !(0x80 ≤ c.toNat && c.toNat < 0xC0)

def columnBehind (column : Nat) (c : Char) : Nat :=
  if c = '\t' then column + (8 - column % 8)
  else if c = '\r' ∨ c = '\x0c' ∨ c = '\n' then 0
  else if c < ' ' ∨ c = '\x7f' ∨ (0x80 ≤ c.toNat ∧ c.toNat < 0xC0) then column
  else column + 1

/-- The last column that a text reaches in any of its lines. -/
def width (t : Text) : Nat :=
  (t.foldl (fun (column, longest) c =>
    let column := columnBehind column c
    (column, max longest column)) (0, 0)).2

def ofText (t : Text) : Tally where
  lines := t.count '\n'
  words := wordCount t
  characters := characterCount t
  bytes := t.length
  longest := width t

/-- Two tallies together. -/
def add (a b : Tally) : Tally where
  lines := a.lines + b.lines
  words := a.words + b.words
  characters := a.characters + b.characters
  bytes := a.bytes + b.bytes
  longest := max a.longest b.longest

/-- The letters of the numbers that are asked for. -/
def letters (options : Options) : Text :=
  let asked := "lwmcL".toList.filter options.has
  if asked.isEmpty then ['l', 'w', 'c'] else asked

def number (tally : Tally) (letter : Char) : Nat :=
  match letter with
  | 'l' => tally.lines
  | 'w' => tally.words
  | 'm' => tally.characters
  | 'L' => tally.longest
  | _ => tally.bytes

def row (tally : Tally) (letters : Text) (width : Nat) (name : Text) : Text :=
  Text.join " " (letters.map fun letter => column width (Text.ofNat (tally.number letter))) ++
    (if name.isEmpty then [] else ' ' :: name) ++ ['\n']

/-- The way through files; the numbers of several are added up in the end. -/
def passing (letters : Text) (width : Nat) (several : Bool) : Passing Tally where
  start := {}
  step := fun total name t =>
    let tally := ofText t
    (total.add tally, tally.row letters width name)
  refuse := fun total path => (total, [], ({} : Tally).row letters width path)
  finish := fun total => if several then total.row letters width "total" else []

/-- The width of columns. It is that of the size of all files if it is known. -/
def widthFor (letters : Text) (sizes : List (Option Nat)) : Nat :=
  if sizes.length ≤ 1 ∧ letters.length = 1 then 1
  else
    let least := if sizes.all Option.isSome then 1 else 7
    max least (Text.ofNat ((sizes.map fun size => size.getD 0).foldl (· + ·) 0)).length

end Tally

end Agenda.Shell.Filter
