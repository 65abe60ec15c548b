import Agenda.Text.Basic
import Agenda.Text.Quoted

/-!
# Blocks of a document

A document is cut into blocks at its delimiter lines: `---` with nothing but spaces and tabs around
it. What stands between two delimiters is a *segment*; a segment that holds more than blanks is a
block. Blocks are numbered in order, and a block is found in the document by its first line that is
not blank.
-/

namespace Agenda

/-- The lines between two delimiters, with the number of the first of them in the document. -/
structure Segment where
  start : Nat
  lines : List Text
deriving Repr, DecidableEq

/-- One block of a document: the text of one event. -/
structure Block where
  /-- The place among the blocks, from 1. -/
  number : Nat
  /-- The number of the first line that is not blank, from 1. -/
  line : Nat
  text : Text
deriving Repr, DecidableEq

/-- Whether a line separates two blocks. -/
def isDelimiter (line : Text) : Bool :=
  match line.dropWhile Text.isSpace with
  | '-' :: '-' :: '-' :: rest => rest.all Text.isSpace
  | _ => false

namespace Segment

def text (segment : Segment) : Text := Text.unlines segment.lines

/-- Whether a segment is a block: it holds a character that is not blank. -/
def isBlock (segment : Segment) : Bool := !Text.allBlank segment.text

/-- The number of the first line that is not blank. -/
def firstLine (segment : Segment) : Nat :=
  segment.start + segment.lines.findIdx fun line => !Text.allBlank line

/-- The segments of the lines from line number `start` on. -/
def ofLines (start : Nat) : List Text → List Segment
  | [] => [⟨start, []⟩]
  | line :: rest =>
    if isDelimiter line then ⟨start, []⟩ :: ofLines (start + 1) rest
    else match ofLines (start + 1) rest with
      | [] => [⟨start, [line]⟩]
      | next :: others => ⟨start, line :: next.lines⟩ :: others

theorem ofLines_ne_nil (start : Nat) (lines : List Text) : ofLines start lines ≠ [] := by
  cases lines with
  | nil => simp [ofLines]
  | cons line rest =>
    simp only [ofLines]
    split
    · simp
    · split <;> simp

end Segment

namespace Block

/-- The lines of a document, without carriage returns at their ends. -/
def documentLines (document : Text) : List Text := Text.lines (Text.dropReturns document)

/-- Segments made into blocks, numbered from `number` on. -/
def ofSegments : Nat → List Segment → List Block
  | _, [] => []
  | number, segment :: rest =>
    if segment.isBlock then
      ⟨number, segment.firstLine, segment.text⟩ :: ofSegments (number + 1) rest
    else ofSegments number rest

def ofDocument (document : Text) : List Block :=
  ofSegments 1 (Segment.ofLines 1 (documentLines document))

/-- A block in one line: its number, its place, and the first thirty characters of its text. -/
def summary (block : Block) : Text :=
  "Block(" ++ Text.ofNat block.number ++ ", line=" ++ Text.ofNat block.line ++ ", " ++
    Text.quoted (block.text.take 30) ++ ")"

end Block

end Agenda
