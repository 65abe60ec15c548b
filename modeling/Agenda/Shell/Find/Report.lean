import Agenda.Shell.FileTool.Report

/-!
# What a search tells of files

The formats in which a search tells what it knows of a file. A letter behind a per cent sign stands
for a fact; some letters take the one behind them as well, which says in which form.
-/

namespace Agenda.Shell.Find

/-- What a search has come to: its path and the one that the search has started with, the number of
steps between them, and what is there; where symbolic links are followed, `self` is the link. -/
structure Item where
  path : Text
  start : Text
  depth : Nat
  place : Place
  entry : Entry
  self : Entry
  /-- The directories that are above it, with their paths. -/
  above : List (Place × Text) := []

/-- A piece of a format. -/
inductive Segment
  | text (c : Char)
  | fact (field : Field) (letters : Text)
  /-- Nothing is printed from here on. -/
  | ends

def factLetters : Text := "abcdDfFgGhHiklmMnpPsStuUyYZ"

/-- The letters that take another one: they stand for moments. -/
def momentLetters : Text := "ABCT"

/-- What the start of a text behind a per cent sign stands for, the number of its characters, and
what is to be said about that. -/
def factAt (rest : Text) : Except Text (List Segment × Nat × List Text) :=
  match fieldOf? [] rest with
  | none =>
    if rest.isEmpty then .error "error: % at end of format string"
    else .error "error: the format directive \x60%\x00' is reserved for future use"
  | some (field, length) =>
    let letter := field.conversion
    let written := (('%' :: rest.take length).map Segment.text, length)
    let unknown (letter : Char) : Except Text (List Segment × Nat × List Text) :=
      .ok (written.1, written.2,
        ["warning: unrecognized format directive \x60%".toList ++ letter :: ['\x27']])
    if field.starred || field.starredPrecision then unknown '*'
    else if "\x7b[(".toList.contains letter then
      .error ("error: the format directive \x60%" ++ letter :: "' is reserved for future use".toList)
    else if factLetters.contains letter then .ok ([.fact field [letter]], length, [])
    else if momentLetters.contains letter then
      match rest[length]? with
      | some form => .ok ([.fact field [letter, form]], length + 1, [])
      | none =>
        .ok (written.1, written.2, ["warning: format directive \x60%".toList ++ letter ::
          "' should be followed by another character".toList])
    else unknown letter

/-- What the start of a text behind a backslash stands for, the number of its characters, and what
is to be said about that. -/
def escapeAt (rest : Text) : List Segment × Nat × List Text :=
  match rest with
  | [] => ([.text '\\'], 0, ["warning: escape \x60\\' followed by nothing at all"])
  | 'c' :: _ => ([.ends], rest.length, [])
  | c :: _ =>
    match if c = 'e' then none else Escapes.format.read? rest with
    | some (own, length) => (own.map Segment.text, length, [])
    | none =>
      ([.text '\\', .text c], 1,
        ["warning: unrecognized escape \x60\\".toList ++ c :: ['\x27']])

/-- The pieces of a format, and what is to be said about it; `skip` characters have been read
already. -/
def segmentsFrom : Nat → Text → Except Text (List Segment × List Text)
  | _, [] => .ok ([], [])
  | skip + 1, _ :: rest => segmentsFrom skip rest
  | 0, c :: rest => do
    let (own, length, words) ←
      if c = '\\' then pure (escapeAt rest)
      else if c ≠ '%' then pure ([Segment.text c], 0, [])
      else if rest.head? = some '%' then pure ([Segment.text '%'], 1, [])
      else factAt rest
    let (segments, others) ← segmentsFrom length rest
    return (own ++ segments, words ++ others)

def letterOf : Entry → Char
  | .directory _ => 'd'
  | .file _ => 'f'
  | .link _ => 'l'

/-- The fraction of a second, with as many digits as a search writes. -/
def fraction (moment : Int) : Text := '.' :: Text.padNat 3 (moment % 1000).toNat ++ "0000000".toList

def momentIn (moment : Int) (form : Char) : Text :=
  let written (format : String) : Text := Clock.formatted moment format.toList
  match form with
  | '@' => Text.ofInt (moment / 1000) ++ fraction moment
  | 'S' => written "%S" ++ fraction moment
  | 'T' | 'X' => written "%H:%M:%S" ++ fraction moment
  | '+' => written "%Y-%m-%d+%H:%M:%S" ++ fraction moment
  | form =>
    if "aAbBcCdDeFgGhHIjklmMnpPrRstuUVwWxyYzZ".toList.contains form then
      Clock.formatted moment ['%', form]
    else ['%', form]

/-- The path before the last name of another one. -/
def Item.folder (item : Item) : Text :=
  let path := item.path
  if Text.endsWith "/" path then path.dropLast
  else if path.contains '/' then path.take (path.length - (FileTool.lastName path).length - 1)
  else ['.']

/-- The last name of the path, with a slash if one is behind it. -/
def Item.name (item : Item) : Text :=
  FileTool.lastName item.path ++ if Text.endsWith "/" item.path then ['/'] else []

/-- The path from where the search has started. -/
def Item.inner (item : Item) : Text :=
  if item.depth = 0 then []
  else
    let rest := item.path.drop item.start.length
    if Text.endsWith "/" item.start then rest else rest.drop 1

/-- The letter of what is at the end of a path through all symbolic links: there may be nothing, or
the links may lead around. -/
def Item.goalLetter (disk : Disk) (here : Place) (item : Item) : Char :=
  match FileTool.look disk true here item.path with
  | .ok (_, entry) => letterOf entry
  | .error .tooManyLinks => 'L'
  | .error _ => 'N'

def Item.fact (disk : Disk) (here : Place) (item : Item) (letters : Text) : Text :=
  let moment := FileTool.timeOf item.entry
  match letters with
  | ['p'] => raw item.path
  | ['f'] => raw item.name
  | ['h'] => raw item.folder
  | ['H'] => raw item.start
  | ['P'] => raw item.inner
  | ['d'] => Text.ofNat item.depth
  | ['s'] => Text.ofNat (FileTool.sizeOf item.entry)
  | ['k'] => Text.ofNat (FileTool.blocksOf item.entry)
  | ['b'] => Text.ofNat (2 * FileTool.blocksOf item.entry)
  | ['m'] => FileTool.modeDigits (FileTool.rightsOf item.entry)
  | ['M'] => FileTool.rightsInLetters item.entry
  | ['n'] => Text.ofNat (FileTool.nameCount disk item.place item.entry)
  | ['u'] | ['g'] => "root"
  | ['U'] | ['G'] => ['0']
  | ['y'] => [letterOf item.entry]
  | ['Y'] => [item.goalLetter disk here]
  | ['l'] =>
    match item.entry with
    | .link target => raw target
    | _ => []
  | ['t'] | ['a'] | ['c'] =>
    Clock.formatted moment "%a %b %e %H:%M:%S" ++ fraction moment ++ Clock.formatted moment " %Y"
  | ['F'] => "ext4"
  | ['Z'] => []
  | [_] => ['1']
  | [_, form] => momentIn moment form
  | _ => []

/-- A fact in a field: the depth and the mode are numbers, and all else is text. -/
def Field.ofFact (field : Field) (letters t : Text) : Text :=
  match letters with
  | ['d'] => field.fill true (field.sign false) t
  | ['m'] => field.fill true [] (if field.alternate then '0' :: t else t)
  | _ => field.ofText t

def Item.formatted (disk : Disk) (here : Place) (item : Item) : List Segment → Text
  | [] | .ends :: _ => []
  | .text c :: rest => c :: item.formatted disk here rest
  | .fact field letters :: rest =>
    Field.ofFact field letters (item.fact disk here letters) ++ item.formatted disk here rest

/-- A line with what is known of a file. -/
def Item.listed (disk : Disk) (item : Item) : Text :=
  let column (width : Nat) (t : Text) : Text := List.replicate (width - t.length) ' ' ++ t
  let moment := FileTool.timeOf item.entry
  let recent := disk.clock - 15778476000 < moment && moment ≤ disk.clock
  let target : Text := match item.entry with
    | .link target => " -> " ++ raw target
    | _ => []
  Text.join " " [column 9 ['1'], column 6 (Text.ofNat (FileTool.blocksOf item.entry)),
    FileTool.rightsInLetters item.entry,
    column 3 (Text.ofNat (FileTool.nameCount disk item.place item.entry)), "root    ", "root    ",
    column 8 (Text.ofNat (FileTool.sizeOf item.entry)),
    Clock.formatted moment (if recent then "%b %e %H:%M" else "%b %e  %Y"),
    raw item.path ++ target] ++ ['\n']

end Agenda.Shell.Find
