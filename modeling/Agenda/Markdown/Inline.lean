import Agenda.Text.Basic
import Agenda.Text.Html
import Agenda.Text.Word

/-!
# Inline markup and lines under work

What stands in a line of a description besides plain text: emphasis, code, links, line breaks, and
tags and entities that are passed on as they are.

A line is read in several passes, each for one kind of markup. Between two passes it is a list of
bits: the characters that are still plain, and the pieces that earlier passes have made, which later
ones do not look into. A pass is a rule that finds one piece; it is applied at the first place where
it finds something, and then behind the piece that it found.
-/

namespace Agenda.Markdown

/-! ## Inline markup -/

/-- A piece of a line. -/
inductive Inline
  | text (t : Text)
  /-- Text that is no markup whatever it looks like. -/
  | literal (t : Text)
  | code (t : Text)
  /-- A tag or an entity. -/
  | raw (t : Text)
  | lineBreak
  | link (target : Text) (title : Option Text) (inside : List Inline)
  | emphasis (inside : List Inline)
  | strong (inside : List Inline)

namespace Inline

/-- Whether a piece has a tag of its own. -/
def isElement : Inline → Bool
  | text _ | literal _ | raw _ => false
  | _ => true

/-- The pieces in a piece. -/
def inside : Inline → List Inline
  | link _ _ inside | emphasis inside | strong inside => inside
  | _ => []

/-- A piece with other pieces in it. -/
def withInside (inline : Inline) (inside : List Inline) : Inline :=
  match inline with
  | link target title _ => link target title inside
  | emphasis _ => emphasis inside
  | strong _ => strong inside
  | inline => inline

/-- The pieces before the first with a tag, and those from there on. -/
def cut (inlines : List Inline) : List Inline × List Inline :=
  inlines.span fun inline => !inline.isElement

end Inline

/-- A text between an opening and a closing tag. -/
def element (tag inside : Text) : Text := "<" ++ tag ++ ">" ++ inside ++ "</" ++ tag ++ ">"

def isHexDigit (c : Char) : Bool := c.isDigit || ('a' ≤ c && c ≤ 'f') || ('A' ≤ c && c ≤ 'F')

/-- Whether a text starts with an entity behind its ampersand: a name or a number, and a semicolon.
-/
def startsEntity (t : Text) : Bool :=
  let closed (accept : Char → Bool) (t : Text) : Bool :=
    match t.span accept with
    | (_ :: _, ';' :: _) => true
    | _ => false
  match t with
  | '#' :: 'x' :: rest | '#' :: 'X' :: rest => closed isHexDigit rest
  | '#' :: rest => closed Char.isDigit rest
  | t => closed Char.isAlphanum t

/-- A text between quotation marks; entities in it stay as they are. -/
def quotedHtml : Text → Text
  | [] => []
  | '&' :: rest => (if startsEntity rest then ['&'] else "&amp;") ++ quotedHtml rest
  | '\x22' :: rest => "&quot;" ++ quotedHtml rest
  | c :: rest => Text.htmlChar c ++ quotedHtml rest

/-- What is behind a line break: blanks before another piece with a tag, or before nothing, are
dropped. -/
def afterBreak : List Inline → List Inline
  | [.text t] => if Text.allBlank t then [] else [.text t]
  | .text t :: .literal u :: rest => .text t :: .literal u :: rest
  | .text t :: .raw u :: rest => .text t :: .raw u :: rest
  | .text t :: inline :: rest =>
    if Text.allBlank t then inline :: rest else .text t :: inline :: rest
  | inlines => inlines

mutual

/-- A piece of a line on a page. -/
def Inline.html : Inline → Text
  | .text t => Text.html t
  | .literal t => Text.html t
  | .code t => element "code" (Text.html t)
  | .raw t => t
  | .lineBreak => "<br />\n"
  | .link target title inside =>
    let title := (title.map fun t => " title=\"" ++ quotedHtml t ++ "\"").getD []
    "<a href=\"" ++ quotedHtml target ++ "\"" ++ title ++ ">" ++ Inline.htmlAll inside ++ "</a>"
  | .emphasis inside => element "em" (Inline.htmlAll inside)
  | .strong inside => element "strong" (Inline.htmlAll inside)

/-- Pieces of a line on a page, one after the other. -/
def Inline.htmlAll : List Inline → Text
  | [] => []
  | inline :: rest => inline.html ++ Inline.htmlAll rest

end

/-! ## Lines under work -/

/-- A plain character or a finished piece. -/
inductive Bit
  | char (c : Char)
  | piece (inline : Inline)

namespace Bit

def ofText (t : Text) : List Bit := t.map char

/-- The characters of some bits; finished pieces have none, but for those that stand for plain text.
-/
def plain : List Bit → Text
  | [] => []
  | char c :: rest => c :: plain rest
  | piece (.literal t) :: rest => t ++ plain rest
  | piece (.code t) :: rest => t ++ plain rest
  | piece _ :: rest => plain rest

/-- The pieces that bits are in the end: neighbouring characters make one text. -/
def settle : List Bit → List Inline
  | [] => []
  | piece .lineBreak :: rest => .lineBreak :: afterBreak (settle rest)
  | piece inline :: rest => inline :: settle rest
  | char c :: rest =>
    match settle rest with
    | .text t :: others => .text (c :: t) :: others
    | others => .text [c] :: others

/-- Pieces as bits: text is plain characters again. -/
def ofInlines : List Inline → List Bit
  | [] => []
  | .text t :: rest => ofText t ++ ofInlines rest
  | inline :: rest => piece inline :: ofInlines rest

def is (c : Char) : Bit → Bool
  | char d => d == c
  | piece _ => false

def isWord : Bit → Bool
  | char c => Text.isWordChar c
  | piece _ => false

def isBlank : Bit → Bool
  | char c => Text.isBlank c
  | piece _ => false

/-- The number of characters that a finished piece counts for, whatever it holds. -/
def pieceWidth : Nat := 14

/-- The number of characters that a bit counts for. -/
def width : Bit → Nat
  | char _ => 1
  | piece _ => pieceWidth

/-- The number of characters that bits count for. -/
def widthAll (bits : List Bit) : Nat := bits.foldl (fun sum bit => sum + bit.width) 0

def startWith (c : Char) : List Bit → Bool
  | [] => false
  | bit :: _ => bit.is c

end Bit

/-- What a pass looks for: given the bit before and the bits from here on, a piece and the bits
behind it. -/
abbrev Rule := Option Bit → List Bit → Option (Bit × List Bit)

namespace Rule

/-- Applies a rule wherever it finds something, at most `steps` times. -/
def applyUpTo (rule : Rule) : (steps : Nat) → Option Bit → List Bit → List Bit
  | 0, _, bits => bits
  | _, _, [] => []
  | steps + 1, before, bit :: rest =>
    match rule before (bit :: rest) with
    | some (found, behind) => found :: applyUpTo rule steps (some found) behind
    | none => bit :: applyUpTo rule steps (some bit) rest

/-- Applies a rule to a line, from its first bit to its last. Every step is over one bit at least.
-/
def applyAll (rule : Rule) (bits : List Bit) : List Bit := applyUpTo rule bits.length none bits

end Rule

end Agenda.Markdown
