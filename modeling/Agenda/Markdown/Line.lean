import Agenda.Markdown.Code
import Agenda.Markdown.Emphasis
import Agenda.Markdown.Inline
import Agenda.Markdown.Link
import Agenda.Markdown.Tag

/-!
# Reading a line

When a line has been read, some text in its pieces is read again, each stretch like a line of its
own: the text behind every piece that lies within another, and the text that such a piece starts
with. So a link or a stressed text can appear there that was none in the line as a whole. The text
at the start of a piece that lies in no other is not read again.

The passes over a line in their order: code, escaped marks, links, line breaks, tags, entities,
marks that stand alone, emphasis. What one pass has found the later ones do not look into, so that
code keeps its stars and a link keeps the underscores of its target. At last the text within pieces
is read again.
-/

/-! ## What is within pieces -/

namespace Agenda.Markdown.Nested

mutual

/-- A piece with what lies within it read again; `depth` bounds the steps. -/
def revisit (read : List Bit → List Inline) : (depth : Nat) → Inline → Inline
  | 0, inline => inline
  | depth + 1, inline =>
    let (lead, others) := Inline.cut inline.inside
    inline.withInside (lead ++ revisitAll read depth others)

/-- Pieces within another, the first of which has a tag, with the text in and behind them read
again.
-/
def revisitAll (read : List Bit → List Inline) : (depth : Nat) → List Inline → List Inline
  | 0, inlines => inlines
  | _, [] => []
  | depth + 1, inline :: rest =>
    let (tail, others) := Inline.cut rest
    let (lead, found) := Inline.cut (read (Bit.ofInlines tail))
    revisitOwn read depth inline :: lead ++ revisitAll read depth (found ++ others)

/-- A piece with the text that it starts with read again, and what lies within it. -/
def revisitOwn (read : List Bit → List Inline) : (depth : Nat) → Inline → Inline
  | 0, inline => inline
  | depth + 1, inline =>
    let (own, others) := Inline.cut inline.inside
    let (lead, found) := Inline.cut (read (Bit.ofInlines own))
    let found :=
      if others.isEmpty then found.map (revisit read depth)
      else revisitAll read depth (found ++ others)
    inline.withInside (lead ++ found)

end

end Agenda.Markdown.Nested

/-! ## Reading a line -/

namespace Agenda.Markdown

/-- The characters that a backslash takes the meaning from. -/
def escapable : List Char :=
  ['\\', '\x60', '*', '_', '\x7b', '\x7d', '[', ']', '(', ')', '>', '#', '+', '-', '.', '!', '|']

def escapeRule : Rule := fun _ bits =>
  match bits with
  | .char '\\' :: .char c :: behind =>
    if escapable.contains c then some (.piece (.literal [c]), behind) else none
  | _ => none

/-- The rule for line breaks: two spaces at the end of a line. -/
def breakRule : Rule := fun _ bits =>
  match bits with
  | .char ' ' :: .char ' ' :: .char '\n' :: behind => some (.piece .lineBreak, behind)
  | _ => none

def blankOrNone (bit : Option Bit) : Bool := bit.all Bit.isBlank

/-- The rule for up to three equal marks between blanks: they are text. -/
def loneRule : Rule := fun before bits =>
  match bits with
  | .char c :: _ =>
    let run := (bits.takeWhile (·.is c)).length
    let behind := bits.drop run
    if (c = '*' ∨ c = '_') ∧ run ≤ 3 ∧ blankOrNone before ∧ blankOrNone behind.head? then
      some (.piece (.literal (List.replicate run c)), behind)
    else none
  | _ => none

/-- The passes that also read the text of links. -/
def readInside (bits : List Bit) : List Inline :=
  Bit.settle (readEmphasis (loneRule.applyAll (Entity.rule.applyAll
    (Tag.rule.applyAll (breakRule.applyAll bits)))))

/-- All passes. -/
def readBits (bits : List Bit) : List Inline :=
  readInside ((Link.rule readInside).applyAll (escapeRule.applyAll (Code.read bits)))

/-- The pieces of a line. No piece is found in fewer than two bits, so that the length of the line
is depth enough for what lies within them. -/
def readLine (t : Text) : List Inline :=
  (readBits (Bit.ofText t)).map (Nested.revisit readBits (t.length + 2))

end Agenda.Markdown
