import Agenda.Markdown.Line
import Agenda.Text.Digit

/-!
# Blocks and tables of a description

The blocks that a description is made of, and how they are written on a page. A block that holds
others puts each of them on lines of its own; text that stands directly in an item of a list stays
on the line of the item.

A table is a row of heads, a row of dashes, and rows of cells, with bars between the cells. Bars at
the ends of a row are optional; whether there are any is decided by the row of heads. A bar inside
code or behind a backslash parts no cells.
-/

/-! ## Blocks of a description -/

namespace Agenda.Markdown

/-- How a column of a table is aligned. -/
inductive Alignment
  | none
  | left
  | center
  | right
deriving Repr, DecidableEq

/-- A table: its columns, the cells of its head, and the cells of its rows, one for each column. -/
structure Table where
  columns : List Alignment
  head : List Text
  rows : List (List Text)
deriving Repr, DecidableEq

inductive Block
  | paragraph (t : Text)
  | bare (t : Text)
  | heading (level : Nat) (t : Text)
  | rule
  | code (t : Text)
  | quote (inside : List Block)
  | list (ordered : Bool) (items : List (List Block))
  | table (table : Table)

def lineHtml (t : Text) : Text := Inline.htmlAll (readLine t)

namespace Table

def style : Alignment → Text
  | .none => []
  | .left => " style=\"text-align: left;\""
  | .center => " style=\"text-align: center;\""
  | .right => " style=\"text-align: right;\""

def cellHtml (tag : Text) (alignment : Alignment) (cell : Text) : Text :=
  "<" ++ tag ++ style alignment ++ ">" ++ lineHtml cell ++ "</" ++ tag ++ ">\n"

def rowHtml (tag : Text) (columns : List Alignment) (cells : List Text) : Text :=
  element "tr" ("\n" ++ (List.zipWith (cellHtml tag) columns cells).flatten) ++ "\n"

def emptyRowHtml (columns : List Alignment) : Text :=
  element "tr" ("\n" ++ (columns.map fun _ => cellHtml "td" .none []).flatten) ++ "\n"

/-- A table on a page. A table without rows has an empty one. -/
def html (table : Table) : Text :=
  let body :=
    if table.rows.isEmpty then emptyRowHtml table.columns
    else (table.rows.map (rowHtml "td" table.columns)).flatten
  element "table" ("\n" ++
    element "thead" ("\n" ++ rowHtml "th" table.columns table.head) ++ "\n" ++
    element "tbody" ("\n" ++ body) ++ "\n")

end Table

mutual

def Block.html : Block → Text
  | .paragraph t => element "p" (lineHtml t)
  | .bare t => lineHtml t
  | .heading level t => element ("h" ++ Text.ofNat level) (lineHtml t)
  | .rule => "<hr />"
  | .code t => element "pre" (element "code" (Text.html (Text.trimEnd t) ++ "\n"))
  | .quote inside => element "blockquote" (Block.linesHtml inside)
  | .list ordered items =>
    element (if ordered then "ol" else "ul") ("\n" ++ Block.itemsHtml items)
  | .table grid => grid.html

/-- Blocks on a page, each on lines of its own, behind a line feed if there are any. -/
def Block.linesHtml : List Block → Text
  | [] => []
  | block :: rest => "\n" ++ block.html ++ (if rest.isEmpty then ['\n'] else Block.linesHtml rest)

/-- The blocks of an item: text stands where it is, and any other block has the rest of its line for
itself. -/
def Block.itemHtml : List Block → Text
  | [] => []
  | .bare t :: rest => lineHtml t ++ Block.itemHtml rest
  | block :: rest => block.html ++ "\n" ++ Block.itemHtml rest

/-- The items of a list. Text at the start of an item stands on the line of the tag. -/
def Block.itemsHtml : List (List Block) → Text
  | [] => []
  | [] :: items => element "li" [] ++ "\n" ++ Block.itemsHtml items
  | (.bare t :: rest) :: items =>
    element "li" (lineHtml t ++ Block.itemHtml rest) ++ "\n" ++ Block.itemsHtml items
  | item :: items => element "li" ("\n" ++ Block.itemHtml item) ++ "\n" ++ Block.itemsHtml items

end

/-- A description on a page: its blocks, each on a line of its own. -/
def documentHtml (blocks : List Block) : Text := Text.join "\n" (blocks.map Block.html)

end Agenda.Markdown

/-! ## Reading a table -/

namespace Agenda.Markdown.Table

def trimSpacesEnd (t : Text) : Text := (t.reverse.dropWhile (· == ' ')).reverse

def trimSpaces (t : Text) : Text := trimSpacesEnd (t.dropWhile (· == ' '))

/-- A row without the bar at its end and the pairs of backslashes before it, if it ends with a bar
that no single backslash stands before. -/
def withoutEndBar? (row : Text) : Option Text :=
  match row.reverse with
  | '|' :: rest =>
    let (slashes, rest) := rest.span (· == '\\')
    if slashes.length % 2 = 0 then some rest.reverse else none
  | _ => none

def hasOuterBar (row : Text) : Bool := Text.startsWith ['|'] row || (withoutEndBar? row).isSome

/-- A place in a row that matters to its cells: a run of ticks, with one character more at its start
if a backslash stands there, or a bar. -/
inductive Place
  | ticks (start length : Nat) (escaped : Bool)
  | bar (start : Nat)

namespace Place

/-- The places of a row, at most `count`; `start` is where the text stands in the row. Two
backslashes stand for themselves, and a bar behind one backslash is no place. -/
def ofText : Nat → (start : Nat) → Text → List Place
  | 0, _, _ | _, _, [] => []
  | count + 1, start, '\\' :: '\\' :: rest => ofText count (start + 2) rest
  | count + 1, start, '\\' :: '|' :: rest => ofText count (start + 2) rest
  | count + 1, start, '|' :: rest => bar start :: ofText count (start + 1) rest
  | count + 1, start, c :: rest =>
    let run := ((if c = '\\' then rest else c :: rest).takeWhile (· == tick)).length
    let length := if c = '\\' then run + 1 else run
    if run = 0 then ofText count (start + 1) rest
    else ticks start length (c = '\\') :: ofText count (start + length) (rest.drop (length - 1))

def bars : List Place → List Nat
  | [] => []
  | bar start :: rest => start :: bars rest
  | ticks .. :: rest => bars rest

/-- The end of the first run of ticks that is of some length, with the places behind it. -/
def closing? (size : Nat) : List Place → Option (Nat × List Place)
  | [] => none
  | ticks start length _ :: rest =>
    if length = size then some (start + length, rest) else closing? size rest
  | bar _ :: rest => closing? size rest

/-- The stretches of code in a row: from a run of ticks to the end of the next one that is as long,
where a backslash before the first one does not count. -/
def codes : Nat → List Place → List (Nat × Nat)
  | 0, _ | _, [] => []
  | count + 1, ticks start length escaped :: rest =>
    let size := if escaped then length - 1 else length
    match closing? size rest with
    | some (stop, rest) => (start, stop) :: codes count rest
    | none => codes count rest
  | count + 1, bar _ :: rest => codes count rest

end Place

/-- The places of the bars that part the cells of a row. -/
def partingBars (row : Text) : List Nat :=
  let places := Place.ofText row.length 0 row
  let codes := Place.codes places.length places
  (Place.bars places).filter fun bar => !codes.any fun (start, stop) => start ≤ bar && bar < stop

/-- The stretches of a text between some of its characters, which are given by their places; `start`
is where the text stands. -/
def splitAt (start : Nat) (t : Text) : List Nat → List Text
  | [] => [t]
  | place :: rest =>
    t.take (place - start) :: splitAt (place + 1) (t.drop (place + 1 - start)) rest

/-- The cells of a row; where the table has bars at its ends, these part no cells. -/
def cells (bordered : Bool) (row : Text) : List Text :=
  let row :=
    if bordered then
      let row := match row with
        | '|' :: rest => rest
        | row => row
      (withoutEndBar? row).getD row
    else row
  splitAt 0 row (partingBars row)

/-- The alignment that a cell of the row of dashes asks for. -/
def alignment (cell : Text) : Alignment :=
  let cell := trimSpaces cell
  match Text.startsWith [':'] cell, Text.endsWith [':'] cell with
  | true, true => .center
  | true, false => .left
  | false, true => .right
  | false, false => .none

/-- As many cells as there are columns: further ones are dropped and missing ones are empty. -/
def fitTo (columns : Nat) (cells : List Text) : List Text :=
  (cells.map trimSpaces ++ List.replicate columns []).take columns

/-- The table that some lines make, if they are a table. A single column needs a bar at an end of
every row. -/
def ofLines? (lines : List Text) : Option Table :=
  match lines.map trimSpaces with
  | head :: dashes :: rows =>
    let bordered := hasOuterBar head
    let heads := cells bordered head
    let columns := (cells bordered dashes).map alignment
    if (heads.length ≥ 2 ∨ (bordered ∧ (dashes :: rows).all hasOuterBar)) ∧
        columns.length = heads.length ∧
        (cells bordered dashes).flatten.all (fun c => c = '|' ∨ c = ':' ∨ c = '-' ∨ c = ' ')
    then some ⟨columns, fitTo columns.length heads, rows.map fun row =>
      fitTo columns.length (cells bordered row)⟩
    else none
  | _ => none

end Agenda.Markdown.Table
