import Agenda.Shell.FileTool.Report
import Agenda.Shell.Filter.Order
import Agenda.Shell.Wildcard

/-!
# Listings

What `ls` prints: the names of files and of what is in directories, in an order and in a form that
the options choose. Names stand one on a line, in columns, behind commas, or with all that is known
of each file.
-/

namespace Agenda.Shell.FileTool

/-- An item of a listing: how it is named, where it is and what it is. -/
structure Item where
  name : Text
  place : Place
  entry : Entry

/-- How items are ordered. -/
inductive Sorting
  | byName
  | byTime
  | bySize
  | byVersion
  | byEnding
  | asTheyCame
deriving DecidableEq

/-- The order that the last one of the options about it asks for. -/
def Sorting.ofOptions (options : Options) : Sorting :=
  let words : List (Text × Sorting) := [("time", .byTime), ("size", .bySize),
    ("version", .byVersion), ("extension", .byEnding), ("none", .asTheyCame), ("name", .byName)]
  let letters : List (Char × Sorting) := [('t', .byTime), ('S', .bySize), ('v', .byVersion),
    ('X', .byEnding), ('U', .asTheyCame), ('f', .asTheyCame)]
  (options.reverse.findSome? fun (letter, value) =>
    if letter = '9' then words.lookup value else letters.lookup letter).getD .byName

def endingOf (name : Text) : Text :=
  if name.contains '.' then '.' :: (name.reverse.takeWhile (· ≠ '.')).reverse else []

/-- Items in the order that is asked for, perhaps from the last one on, and directories first. -/
def ordered (options : Options) (items : List Item) : List Item :=
  let byName (a b : Item) : Ordering := compareOfLessAndEq a.name b.name
  let sortedBy (order : Item → Item → Ordering) : List Item :=
    let order (a b : Item) : Ordering := (order a b).then (byName a b)
    items.mergeSort fun a b => (if options.has 'r' then order b a else order a b) != .gt
  let sorted := match Sorting.ofOptions options with
    | .byName => sortedBy byName
    | .byTime => sortedBy fun a b => compare (timeOf b.entry) (timeOf a.entry)
    | .bySize => sortedBy fun a b => compare (sizeOf b.entry) (sizeOf a.entry)
    | .byVersion => sortedBy fun a b => Filter.compareVersions a.name b.name
    | .byEnding => sortedBy fun a b => compareOfLessAndEq (endingOf a.name) (endingOf b.name)
    | .asTheyCame => items
  if options.has '4' then
    (sorted.filter (·.entry.isDirectory)) ++ sorted.filter fun item => !item.entry.isDirectory
  else sorted

/-- A character of a name as it is written with escapes; `marks` are written with a backslash. -/
def escapedSign (marks : Text) (c : Char) : Text :=
  match hiddenSign? c with
  | some sign => sign
  | none => if marks.contains c then ['\\', c] else [c]

inductive NameStyle
  | plain
  | hidden
  | quoted
  | escaped
  | marked (always : Bool)

def NameStyle.ofOptions (options : Options) : NameStyle :=
  let words : List (Text × NameStyle) := [("c", .quoted), ("escape", .escaped),
    ("shell", .marked false), ("shell-escape", .marked false), ("shell-always", .marked true),
    ("shell-escape-always", .marked true)]
  let letters : List (Char × NameStyle) := [('Q', .quoted), ('b', .escaped), ('N', .plain)]
  (options.reverse.findSome? fun (letter, value) =>
    if letter = '8' then words.lookup value else letters.lookup letter).getD
      (if options.has 'q' then .hidden else .plain)

def NameStyle.write (style : NameStyle) (name : Text) : Text :=
  match style with
  | plain => name
  | hidden => name.map fun c => if (hiddenSign? c).isSome then '?' else c
  | quoted => '\x22' :: name.flatMap (escapedSign "\x22\\") ++ ['\x22']
  | escaped => name.flatMap (escapedSign " \\")
  | marked always => if always then shown name else named name

def writtenName (options : Options) (name : Text) : Text := (NameStyle.ofOptions options).write name

/-- The mark behind a name that shows what it is, if that is asked for. -/
def kindMark (options : Options) (entry : Entry) : Text :=
  let style := (options.value? '6').getD []
  let classify := options.has 'F' || style = "classify".toList
  let types := classify || options.has '7' || style = "file-type".toList
  match entry with
  | .directory _ =>
    if types || options.has 'p' || style = "slash".toList then ['/'] else []
  | .file file => if classify && file.executable then ['*'] else []
  | .link _ => if types then ['@'] else []

/-- A size in bytes, or with a letter for its unit; units are powers of `base`. -/
def sizeText (base : Option Nat) (size : Nat) : Text :=
  match base with
  | none => Text.ofNat size
  | some base =>
    let scaled (unit : Nat) (letter : Char) : Text :=
      let tenths := (size * 10 + unit - 1) / unit
      (if tenths < 100 then Text.ofNat (tenths / 10) ++ '.' :: Text.ofNat (tenths % 10)
        else Text.ofNat ((size + unit - 1) / unit)) ++ [letter]
    if size < base then Text.ofNat size
    else if size < base * base then scaled base (if base = 1000 then 'k' else 'K')
    else if size < base * base * base then scaled (base * base) 'M'
    else scaled (base * base * base) 'G'

/-- The base of the units that sizes are written with, if they are. -/
def unitBase (options : Options) : Option Nat :=
  match options.lastOf "h^" with
  | some 'h' => some 1024
  | some _ => some 1000
  | none => none

/-- The form of the times in a listing of files, for recent and for other ones. -/
def timeForms (options : Options) : Text × Text :=
  let style := if options.has '3' then "full-iso".toList else (options.value? '+').getD []
  if style = "full-iso".toList then ("%Y-%m-%d %H:%M:%S.%N %z", "%Y-%m-%d %H:%M:%S.%N %z")
  else if style = "long-iso".toList then ("%Y-%m-%d %H:%M", "%Y-%m-%d %H:%M")
  else if style = "iso".toList then ("%m-%d %H:%M", "%Y-%m-%d ")
  else match style with
    | '+' :: form => (form, form)
    | _ => ("%b %e %H:%M", "%b %e  %Y")

/-- Whether all that is known of each item is asked for. -/
def isFull (options : Options) : Bool := "lgon3".toList.any options.has

/-- The number of blocks of an item, as it is printed. -/
def blocksText (options : Options) (entry : Entry) : Text :=
  match unitBase options with
  | some base => sizeText (some base) (blocksOf entry * 1024)
  | none => Text.ofNat (blocksOf entry)

def widest (texts : List Text) : Nat := (texts.map List.length).foldl max 0

def fullLines (disk : Disk) (options : Options) (items : List Item) : List Text :=
  let count (item : Item) : Text := Text.ofNat (nameCount disk item.place item.entry)
  let size (item : Item) : Text := sizeText (unitBase options) (sizeOf item.entry)
  let countWidth := widest (items.map count)
  let sizeWidth := widest (items.map size)
  let blockWidth := widest (items.map fun item => blocksText options item.entry)
  let owner : Text := if options.has 'n' then "0" else "root"
  let (recentForm, otherForm) := timeForms options
  items.map fun item =>
    let moment := timeOf item.entry
    let recent := disk.clock - 15778476000 < moment && moment ≤ disk.clock
    let target : Text := match item.entry with
      | .link path => " -> " ++ raw (writtenName options path) ++
          match disk.final? item.place with
          | some (_, entry) => kindMark options entry
          | none => []
      | entry => kindMark options entry
    Text.join " " (
      (if options.has 's' then [Filter.column blockWidth (blocksText options item.entry)] else []) ++
      [rightsInLetters item.entry, Filter.column countWidth (count item)] ++
      (if options.has 'g' then [] else [owner]) ++
      (if options.has 'o' || options.has 'G' then [] else [owner]) ++
      [Filter.column sizeWidth (size item),
        Clock.formatted moment (if recent then recentForm else otherForm),
        raw (writtenName options item.name) ++ target])

/-- The widths of columns that items of some lengths take, if a column is chosen for each by its
number. All but the last column end in two spaces. -/
def columnWidths (lengths : List Nat) (count : Nat) (columnOf : Nat → Nat) : List Nat :=
  (List.range count).map fun column =>
    (lengths.zipIdx.filterMap fun (length, k) =>
      if columnOf k = column then some (if column + 1 = count then length else length + 2)
      else none).foldl max 3

/-- The column of an item by its number: row after row, or column after column. -/
def columnOf (across : Bool) (total count k : Nat) : Nat :=
  if across then k % count else k / ((total + count - 1) / count)

/-- The largest number of columns that fit into a line. -/
def columnCount (across : Bool) (width : Nat) (lengths : List Nat) : Nat :=
  let total := lengths.length
  let most := if width = 0 then total else min total ((width + 2) / 3)
  let fits (count : Nat) : Bool :=
    width = 0 || (columnWidths lengths count (columnOf across total count)).foldl (· + ·) 0 < width
  (((List.range most).map (· + 1)).reverse.find? fits).getD 1

/-- Blanks from one column of a line to another one, with tabulators where they fit. -/
def indent (tab : Nat) : Nat → (start goal : Nat) → Text
  | 0, _, _ => []
  | fuel + 1, start, goal =>
    if goal ≤ start then []
    else if tab ≠ 0 ∧ (start + 1) / tab < goal / tab then
      '\t' :: indent tab fuel (start + tab - start % tab) goal
    else ' ' :: indent tab fuel (start + 1) goal

/-- The items of a row, each behind the blanks to its column. -/
def rowText (tab : Nat) : Nat → List Nat → List (Text × Nat) → Text
  | position, width :: widths, (t, length) :: next :: rest =>
    t ++ indent tab (width + 1) (position + length) (position + width) ++
      rowText tab (position + width) widths (next :: rest)
  | _, _, (t, _) :: _ => t
  | _, _, [] => []

def rowsOf {α : Type} (across : Bool) (count : Nat) (items : List α) : List (List α) :=
  let total := items.length
  let rows := (total + count - 1) / count
  (List.range rows).map fun row =>
    (items.zipIdx.filter fun (_, k) => if across then k / count = row else k % rows = row).map (·.1)

def inColumns (across : Bool) (tab width : Nat) (items : List (Text × Nat)) : List Text :=
  let lengths := items.map (·.2)
  let count := columnCount across width lengths
  let widths := columnWidths lengths count (columnOf across lengths.length count)
  (rowsOf across count items).map (rowText tab 0 widths)

def behindCommas (width : Nat) (items : List (Text × Nat)) : Text :=
  (items.zipIdx.foldl (fun (t, position) ((name, length), k) =>
    if k = 0 then (t ++ name, length)
    else if width = 0 ∨ position + length + 2 ≤ width then
      (t ++ ", ".toList ++ name, position + length + 2)
    else (t ++ ",\n".toList ++ name, length)) (([] : Text), 0)).1

/-- The form in which items are listed: that of the last option about it. -/
def formLetter (options : Options) : Char :=
  let words : List (Text × Char) := [("long", 'l'), ("verbose", 'l'), ("single-column", '1'),
    ("commas", 'm'), ("across", 'x'), ("horizontal", 'x'), ("vertical", 'C')]
  let letters := options.filterMap fun (letter, value) =>
    if letter = '=' then words.lookup value
    else if "1Cxm".toList.contains letter then some letter
    else if "lgon3".toList.contains letter then some 'l'
    else none
  letters.foldl (fun form letter => if letter = '1' ∧ form = 'l' then form else letter) '1'

def itemsText (disk : Disk) (options : Options) (width : Nat) (items : List Item) : Text :=
  let ending : Text := if options.has '0' then ['\x00'] else ['\n']
  let blockWidth := widest (items.map fun item => blocksText options item.entry)
  let named (item : Item) : Text × Nat :=
    let name := writtenName options item.name
    let mark := kindMark options item.entry
    let front := if options.has 's' then
        Filter.column blockWidth (blocksText options item.entry) ++ [' ']
      else []
    (front ++ raw name ++ mark, front.length + name.length + mark.length)
  let tab := ((options.value? 'T').bind Filter.whole?).getD 8
  if items.isEmpty then []
  else match formLetter options with
    | 'l' => (fullLines disk options items).flatMap (· ++ ending)
    | 'C' => (inColumns false tab width (items.map named)).flatMap (· ++ ending)
    | 'x' => (inColumns true tab width (items.map named)).flatMap (· ++ ending)
    | 'm' => behindCommas width (items.map named) ++ ending
    | _ => (items.map fun item => (named item).1).flatMap (· ++ ending)

def isListed (options : Options) (name : Text) : Bool :=
  let dotted := name.head? == some '.'
  let all := options.has 'a' || options.has 'A' || options.has 'f'
  (all || !dotted) && !(options.has 'B' && Text.endsWith "~" name) &&
    !(options.values 'I').any (Wildcard.accepts · name) &&
    (all || !(options.values '5').any (Wildcard.accepts · name))

/-- What is in a directory, in the order that is asked for. -/
def contentsOf (disk : Disk) (options : Options) (place : Place) : List Item :=
  let common (path : Text) (place : Place) : Option Item :=
    (disk.get? place).map (⟨path, place, ·⟩)
  let dots := if options.has 'a' || options.has 'f' then
      [common ['.'] place, common ['.', '.'] place.dropLast].filterMap id
    else []
  let items := ((disk.children place).filter (isListed options)).filterMap fun name =>
    let inner := place ++ [name]
    (if options.has 'L' then disk.final? inner else none).or
      ((disk.get? inner).map (inner, ·)) |>.map fun (place, entry) => ⟨name, place, entry⟩
  ordered options (dots ++ items)

/-- The text of a directory under a title, and those of the directories in it if they are asked
for. -/
def folderTexts (disk : Disk) (options : Options) (width : Nat) (titled : Bool) :
    Nat → (path : Text) → Place → List Text
  | 0, _, _ => []
  | fuel + 1, path, place =>
    let items := contentsOf disk options place
    let title : Text := if titled then raw (writtenName options path) ++ [':', '\n'] else []
    let blocks := items.foldl (fun blocks item => blocks + blocksOf item.entry) 0
    let total : Text := if isFull options || options.has 's' then
        "total " ++ (match unitBase options with
          | some base => sizeText (some base) (blocks * 1024)
          | none => Text.ofNat blocks) ++ "\n"
      else []
    let inner := if options.has 'R' then
        items.flatMap fun item =>
          if item.entry.isDirectory && !([['.'], ['.', '.']].contains item.name) then
            folderTexts disk options width titled fuel (below path item.name) item.place
          else []
      else []
    (title ++ total ++ itemsText disk options width items) :: inner

def lists (here : Place) (options : Options) (deed : Deed) (operands : List Text) :
    Except Misuse Deed := do
  let width ← match options.value? 'w' with
    | none => pure 80
    | some value =>
      match Filter.whole? value with
      | some width => pure width
      | none => Filter.refuse ("invalid line width: " ++ printed value)
  let disk := deed.disk
  let flat := options.has 'd'
  let operands := if operands.isEmpty then [['.']] else operands
  let through := options.has 'L' || options.has 'H' ||
    !(flat || options.has 'F' || formLetter options = 'l')
  let find (path : Text) : Except Disk.Reason Item :=
    match look disk through here path, look disk false here path with
    | .ok (place, entry), _ =>
      if !options.has 'L' && !options.has 'H' && !entry.isDirectory then
        match look disk false here path with
        | .ok (place, entry) => .ok ⟨path, place, entry⟩
        | .error reason => .error reason
      else .ok ⟨path, place, entry⟩
    | .error _, .ok (place, entry) => .ok ⟨path, place, entry⟩
    | .error _, .error reason => .error reason
  let deed := operands.foldl (fun deed path =>
    match find path with
    | .ok _ => deed
    | .error reason => deed.fail (complaint "cannot access" path reason)) deed
  let items := ordered options (operands.filterMap fun path => (find path).toOption)
  let files := items.filter fun item => flat || !item.entry.isDirectory
  let folders := items.filter fun item => !flat && item.entry.isDirectory
  let titled := operands.length ≠ 1 || options.has 'R'
  let parts := (if files.isEmpty then [] else [itemsText disk options width files]) ++
    folders.flatMap fun item =>
      folderTexts disk options width titled (disk.entries.length + 1) item.name item.place
  let text := Text.join "\n" parts
  return if text.isEmpty then deed else deed.say (.prints text)

example : inColumns false 8 80 [("a".toList, 1), ("bb".toList, 2), ("c".toList, 1)] =
    ["a  bb  c".toList] := by decide +kernel

example : behindCommas 6 [("a".toList, 1), ("b".toList, 1), ("c".toList, 1)] =
    "a, b,\nc".toList := by decide +kernel

end Agenda.Shell.FileTool
