import Agenda.Markdown.Block
import Agenda.Text.Digit
import Agenda.Text.Substitute

/-!
# Descriptions in Markdown

A description is cut into chunks at its empty lines, and every chunk is read for the first kind of
block that it can be: code, a table, a heading, a line across, a list, a quotation; what is none of
these is a paragraph. A block that stands in the midst of a chunk leaves the lines before and behind
it to be read as chunks of their own.
-/

namespace Agenda.Markdown

/-- Tabs made into spaces up to the next multiple of four columns; `column` is where the text
starts. -/
def expandTabs (column : Nat) : Text → Text
  | [] => []
  | '\t' :: rest =>
    let width := 4 - column % 4
    List.replicate width ' ' ++ expandTabs (column + width) rest
  | '\n' :: rest => '\n' :: expandTabs 0 rest
  | c :: rest => c :: expandTabs (column + 1) rest

/-- All lines but the first without their spaces if they hold nothing else. -/
def emptyBlankLines : List Text → List Text
  | [] => []
  | first :: rest => first :: rest.map fun line => if line.all (· == ' ') then [] else line

/-- The text of a description with uniform line ends, without tabs and two reserved characters, with
complete entities and with empty lines at its end. -/
def normalize (t : Text) : Text :=
  let t := t.filter fun c => c ≠ '\x02' ∧ c ≠ '\x03'
  let lines := Text.lines (expandTabs 0 (Text.foldNewlines t ++ "\n\n"))
  Entity.complete (Text.unlines (emptyBlankLines lines))

/-- What stands between pairs of line feeds. -/
def chunks : Text → List Text
  | [] => [[]]
  | '\n' :: '\n' :: rest => [] :: chunks rest
  | c :: rest =>
    match chunks rest with
    | [] => [[c]]
    | first :: others => (c :: first) :: others

/-- Up to `count` spaces less at the front. -/
def dropSpaces : Nat → Text → Text
  | count + 1, ' ' :: rest => dropSpaces count rest
  | _, t => t

/-- The first line in which something is found, between the lines before it and those behind it. -/
def findLine? {α : Type} (find : Text → Option α) :
    List Text → Option (List Text × α × List Text)
  | [] => none
  | line :: rest =>
    match find line with
    | some found => some ([], found, rest)
    | none => (findLine? find rest).map fun (before, found) => (line :: before, found)

/-- The text of a heading behind its opening marks: marks at its end are dropped, unless a backslash
stands before them. A backslash at the very end makes it no heading. -/
def headingBody? : Text → Option Text
  | [] => some []
  | '\\' :: [] => none
  | '\\' :: c :: rest => (headingBody? rest).map fun body => '\\' :: c :: body
  | c :: rest =>
    if (c :: rest).all (· == '#') then some []
    else (headingBody? rest).map (c :: ·)

/-- The level and the text of a heading: one to six marks and the text behind them. -/
def heading? (line : Text) : Option (Nat × Text) :=
  let level := min 6 (line.takeWhile (· == '#')).length
  if level = 0 then none
  else (headingBody? (line.drop level)).map fun body => (level, Text.trim body)

/-- The level of a heading that is underlined by a line of equals signs or of dashes. -/
def underline? (line : Text) : Option Nat :=
  let run := Table.trimSpacesEnd line
  if run.isEmpty then none
  else if run.all (· == '=') then some 1
  else if run.all (· == '-') then some 2
  else none

/-- Whether a line is a line across: three or more equal marks with at most two spaces between
neighbours. -/
def isRule (line : Text) : Bool :=
  let body := dropSpaces 3 (Table.trimSpaces line)
  let indent := (line.takeWhile (· == ' ')).length
  indent ≤ 3 && ['-', '_', '*'].any fun mark =>
    body.head? == some mark && body.all (fun c => c == mark || c == ' ') &&
      3 ≤ (body.filter (· == mark)).length &&
      !Text.occursIn "   " body

/-- The text of an item of a list behind its mark and at least one space, and whether the mark is a
number. -/
def item? (line : Text) : Option (Bool × Text) :=
  let t := dropSpaces 3 line
  let behind (t : Text) : Option Text :=
    match t with
    | ' ' :: rest => some (rest.dropWhile (· == ' '))
    | _ => none
  match t with
  | [] => none
  | c :: rest =>
    if c = '*' ∨ c = '+' ∨ c = '-' then (behind rest).map (false, ·)
    else if (Text.decimalValue? c).isSome then
      match t.dropWhile fun d => (Text.decimalValue? d).isSome with
      | '.' :: rest => (behind rest).map (true, ·)
      | _ => none
    else none

/-- Whether a line is an item of an inner list: one behind four to seven spaces. -/
def isInnerItem (line : Text) : Bool :=
  Text.startsWith "    " line && (item? (line.drop 4)).isSome

/-- The lines of each item of a list, with whether the item belongs to an inner list. A line that
starts no item goes on with the one before. -/
def itemsOf : List (Bool × Text) → List Text → List (Bool × Text)
  | items, [] => items
  | items, line :: rest =>
    match item? line, items.getLast? with
    | some (_, t), _ => itemsOf (items ++ [(false, t)]) rest
    | none, none => itemsOf [(isInnerItem line, line)] rest
    | none, some (inner, t) =>
      if isInnerItem line && !inner then itemsOf (items ++ [(true, line)]) rest
      else itemsOf (items.dropLast ++ [(inner, t ++ "\n" ++ line)]) rest

def unquote? (line : Text) : Option Text :=
  match dropSpaces 3 line with
  | '>' :: ' ' :: rest => some rest
  | '>' :: rest => some rest
  | _ => none

/-- The text of a line inside a quotation; a line without the mark goes on with the one before, and
one with nothing but the mark is empty. -/
def unquote (line : Text) : Text :=
  if Text.trim line = ['>'] then [] else (unquote? line).getD line

/-- The lines of code at the start of some lines, without their indent, and the other lines. -/
def codeLines (lines : List Text) : List Text × List Text :=
  let isCode (line : Text) : Bool := Text.startsWith "    " line || Text.allBlank line
  ((lines.takeWhile isCode).map (·.drop 4), lines.dropWhile isCode)

/-- Whether text that is no other block makes a paragraph or stands directly in the item of a list.
-/
inductive Surrounding
  | page
  | item
deriving DecidableEq

/-- Blocks followed by one more line of code, or by empty lines inside code. -/
def addCode (blocks : List Block) (t : Text) : List Block :=
  match blocks.getLast? with
  | some (.code before) => blocks.dropLast ++ [.code (before ++ "\n" ++ t ++ "\n")]
  | _ => blocks ++ [.code (t ++ "\n")]

/-- Blocks followed by line feeds, which count only behind code. -/
def addGap (blocks : List Block) (gap : Text) : List Block :=
  match blocks.getLast? with
  | some (.code before) => blocks.dropLast ++ [.code (before ++ gap)]
  | _ => blocks

/-- Blocks followed by text that is no other block. Behind a block the text of an item starts on a
line of its own and keeps its indent. -/
def addText (surrounding : Surrounding) (blocks : List Block) (t : Text) : List Block :=
  if Text.allBlank t then blocks
  else match surrounding, blocks with
    | .page, _ => blocks ++ [.paragraph (Text.trimStart t)]
    | .item, [] => [.bare (Text.trimStart t)]
    | .item, [.bare before] => [.bare (before ++ "\n" ++ Text.trimStart t)]
    | .item, _ =>
      match blocks.getLast? with
      | some (.bare before) => blocks.dropLast ++ [.bare (before ++ "\n" ++ t)]
      | _ => blocks ++ [.bare t]

/-- A block with a paragraph in the place of bare text. -/
def loosenBlock : Block → Block
  | .bare t => .paragraph (Text.trimStart t)
  | block => block

/-- The content of an item with paragraphs in the place of bare text at its start and its end. -/
def loosen : List Block → List Block
  | [] => []
  | first :: rest =>
    loosenBlock first :: (rest.dropLast ++ (rest.getLast?.map loosenBlock).toList)

/-- A line without an indent of four spaces. -/
def outdent (line : Text) : Text := if Text.startsWith "    " line then line.drop 4 else line

/-- Lines without an indent of four spaces, where they have it. -/
def outdentLines (t : Text) : Text := Text.unlines ((Text.lines t).map outdent)

/-- The items read so far with one more: an item of an inner list belongs to the item before. -/
def addItem (read : Surrounding → List Block → Text → List Block) (surrounding : Surrounding)
    (items : List (List Block)) (item : Bool × Text) : List (List Block) :=
  match item, items.getLast? with
  | (true, t), some last =>
    items.dropLast ++ [read .item last (outdentLines t)]
  | (_, t), _ => items ++ [read surrounding [] t]

/-- Blocks followed by a list. Behind another list it goes on with that one; the items on both sides
of the gap then hold paragraphs. -/
def addList (read : Surrounding → List Block → Text → List Block) (blocks : List Block)
    (ordered : Bool) (items : List (Bool × Text)) : List Block :=
  match blocks.getLast?, items with
  | some (.list kept before), first :: rest =>
    let before := before.dropLast ++ (before.getLast?.map loosen).toList
    let before := addItem read .page before first
    blocks.dropLast ++ [.list kept (rest.foldl (addItem read .item) before)]
  | _, items => blocks ++ [.list ordered (items.foldl (addItem read .item) [])]

/-- Blocks followed by a quotation. Behind another quotation it goes on with that one. -/
def addQuote (readAll : List Block → List Text → List Block) (blocks : List Block)
    (lines : List Text) : List Block :=
  let inside := chunks (Text.unlines (lines.map unquote))
  match blocks.getLast? with
  | some (.quote before) => blocks.dropLast ++ [.quote (readAll before inside)]
  | _ => blocks ++ [.quote (readAll [] inside)]

/-- Blocks followed by those of some lines, if there are any lines. -/
def addLines (read : List Block → Text → List Block) (blocks : List Block) (lines : List Text) :
    List Block :=
  if lines.isEmpty then blocks else read blocks (Text.unlines lines)

/-- Reads one chunk behind the blocks before it. Every block takes something away from the chunk
that it is read from, so that the length of the text is depth enough. -/
def readChunk : Nat → Surrounding → List Block → Text → List Block
  | 0, _, blocks, _ => blocks
  | depth + 1, surrounding, blocks, chunk =>
    let lines := Text.lines chunk
    let read := readChunk depth
    if chunk.isEmpty then addGap blocks "\n\n"
    else if let '\n' :: rest := chunk then
      let blocks := addGap blocks "\n"
      if rest.isEmpty then blocks else read surrounding blocks rest
    else if surrounding = .item ∧ Text.startsWith "    " chunk then
      read .page blocks (outdentLines chunk)
    else if Text.startsWith "    " chunk then
      let (code, others) := codeLines lines
      addLines (read surrounding) (addCode blocks (Text.trimEnd (Text.unlines code))) others
    else if let some table := Table.ofLines? lines then blocks ++ [.table table]
    else if let some (before, (level, t), behind) := findLine? heading? lines then
      addLines (read surrounding) (addLines (read surrounding) blocks before ++ [.heading level t])
        behind
    else if let some level := lines[1]?.bind underline? then
      addLines (read surrounding) (blocks ++ [.heading level (Text.trim (lines.headD []))])
        (lines.drop 2)
    else if let some (before, _, behind) := findLine? (fun line => guard (isRule line)) lines then
      addLines (read surrounding) (addLines (read surrounding) blocks before ++ [.rule]) behind
    else if let some (ordered, _) := lines.head?.bind item? then
      addList read blocks ordered (itemsOf [] lines)
    else if let some (before, _, _) := findLine? unquote? lines then
      addQuote (List.foldl (read .page)) (addLines (read surrounding) blocks before)
        (lines.drop before.length)
    else addText surrounding blocks chunk

def blocks (t : Text) : List Block :=
  let t := normalize t
  (chunks t).foldl (readChunk (t.length + 1) .page) []

/-- A description on a page; there is nothing of a blank one. -/
def html (t : Text) : Text :=
  if Text.allBlank t then [] else Text.trim (documentHtml (blocks t))

end Agenda.Markdown
