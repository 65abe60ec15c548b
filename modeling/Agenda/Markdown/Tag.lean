import Agenda.Markdown.Inline

/-!
# Tags and entities in a line

A tag is passed on as it is: a bracket, perhaps a slash, a name that starts with a letter, and,
behind a space, anything up to the bracket that ends it. A quotation mark has to follow an equals
sign, and between two of them brackets do not count. What looks otherwise is plain text. Code inside
a tag is passed on as it is written on a page. A comment is passed on like a tag.

An entity stands for a character: by a name, a number or a hexadecimal number between an ampersand
and a semicolon. It is passed on as it is. A number may lack its semicolon, which is put behind it
before anything else is read.
-/

/-! ## Tags in a line -/

namespace Agenda.Markdown.Tag

abbrev Reader := List Bit → Option (Text × List Bit)

/-- A finished piece as a part of a tag: a character that a backslash stood before keeps it. -/
def pieceText : Inline → Text
  | .literal t => '\\' :: t
  | .lineBreak => "<br />"
  | inline => inline.html

def behindText (t : Text) (found : Text × List Bit) : Text × List Bit := (t ++ found.1, found.2)

/-- A value up to the quotation mark that ends it, the mark included. -/
def quoted (mark : Char) : Reader
  | [] => none
  | .char c :: rest =>
    if c = mark then some ([c], rest) else (quoted mark rest).map (behindText [c])
  | .piece inline :: rest => (quoted mark rest).map (behindText (pieceText inline))

theorem length_quoted {mark : Char} {bits rest : List Bit} {t : Text}
    (h : quoted mark bits = some (t, rest)) : rest.length < bits.length := by
  induction bits generalizing t with
  | nil => cases h
  | cons bit bits ih =>
    rw [List.length_cons]
    cases bit with
    | char c =>
      rw [quoted] at h
      split at h
      · cases h
        exact Nat.lt_succ_self _
      · obtain ⟨⟨u, others⟩, found, same⟩ := Option.map_eq_some_iff.1 h
        cases same
        exact Nat.lt_succ_of_lt (ih found)
    | piece inline =>
      rw [quoted] at h
      obtain ⟨⟨u, others⟩, found, same⟩ := Option.map_eq_some_iff.1 h
      cases same
      exact Nat.lt_succ_of_lt (ih found)

/-- The rest of a tag behind its name, up to its last bracket; `isValue` says that an equals sign,
and blanks at most, stand before. -/
def attributes (isValue : Bool) : Reader
  | [] => none
  | .piece inline :: rest => (attributes false rest).map (behindText (pieceText inline))
  | .char c :: rest =>
    if c = '>' then some ([c], rest)
    else if c = '<' then none
    else if c = '\x22' ∨ c = '\x27' then
      if isValue then
        match _h : quoted c rest with
        | none => none
        | some (t, behind) => (attributes false behind).map (behindText (c :: t))
      else none
    else
      (attributes (c = '=' || (isValue && Text.isBlank c)) rest).map (behindText [c])
termination_by bits => bits.length
decreasing_by
  · exact Nat.lt_succ_self _
  · exact Nat.lt_succ_of_lt (length_quoted _h)
  · exact Nat.lt_succ_self _

def name : Reader
  | [] => none
  | .piece inline :: rest => (name rest).map (behindText (pieceText inline))
  | .char c :: rest =>
    if c = '>' then some ([c], rest)
    else if c = '<' ∨ c = '@' then none
    else if c = ' ' then (attributes false rest).map (behindText [c])
    else (name rest).map (behindText [c])

/-- A tag behind its bracket and its slash. -/
def named : Reader
  | .char c :: rest => if c.isAlpha then (name rest).map (behindText [c]) else none
  | _ => none

/-- A comment behind its opening, which does not occur in it. -/
def comment : Reader
  | .char '-' :: .char '-' :: .char '>' :: behind => some ("-->", behind)
  | .char '<' :: .char '!' :: .char '-' :: .char '-' :: _ => none
  | .char c :: rest => (comment rest).map (behindText [c])
  | .piece inline :: rest => (comment rest).map (behindText (pieceText inline))
  | [] => none

def rule : Rule := fun _ bits =>
  let raw (start : Text) (found : Text × List Bit) : Bit × List Bit :=
    (.piece (.raw (start ++ found.1)), found.2)
  match bits with
  | .char '<' :: .char '!' :: .char '-' :: .char '-' :: rest => (comment rest).map (raw "<!--")
  | .char '<' :: .char '/' :: rest => (named rest).map (raw "</")
  | .char '<' :: rest => (named rest).map (raw "<")
  | _ => none

end Agenda.Markdown.Tag

/-! ## Entities -/

namespace Agenda.Markdown.Entity

/-- The characters of a number behind its marks, and what is behind them, if that starts with no
hexadecimal digit. -/
def number? : Text → Option (Text × Text)
  | mark :: rest =>
    let (digits, behind) :=
      if mark = 'x' ∨ mark = 'X' then rest.span isHexDigit else (mark :: rest).span Char.isDigit
    if digits.isEmpty ∨ behind.isEmpty ∨ behind.head?.any isHexDigit then none
    else some (if mark = 'x' ∨ mark = 'X' then mark :: digits else digits, behind)
  | [] => none

/-- A text with a semicolon behind every number that lacks one. A number that goes on as no number
does ends the search, but for one such place, provided that a semicolon is somewhere behind it. The
length of the text is enough for `count`. -/
def completeUpTo : (count : Nat) → (mayPass : Bool) → Text → Text
  | 0, _, t => t
  | count + 1, mayPass, '&' :: '#' :: rest =>
    match number? rest with
    | some (number, ';' :: behind) =>
      "&#" ++ number ++ ";" ++ completeUpTo count mayPass behind
    | some (number, behind) => "&#" ++ number ++ ";" ++ completeUpTo count mayPass behind
    | none =>
      if mayPass && rest.contains ';' then "&#" ++ completeUpTo count false rest
      else '&' :: '#' :: rest
  | count + 1, mayPass, c :: rest => c :: completeUpTo count mayPass rest
  | _, _, [] => []

/-- A text with a semicolon behind every number that lacks one. -/
def complete (t : Text) : Text := completeUpTo t.length true t

/-- The characters up to a semicolon, if all of them are accepted, and what is behind it. -/
def upToEnd? (accept : Char → Bool) : List Bit → Option (Text × List Bit)
  | .char c :: rest =>
    if c = ';' then some ([], rest)
    else if accept c then
      (upToEnd? accept rest).map fun (chars, behind) => (c :: chars, behind)
    else none
  | _ => none

/-- An entity behind its opening, if its name is not empty. -/
def with? (accept : Char → Bool) (opening : Text) (bits : List Bit) :
    Option (Bit × List Bit) := do
  let (name, behind) ← upToEnd? accept bits
  guard (!name.isEmpty)
  return (.piece (.raw (opening ++ name ++ ";")), behind)

def rule : Rule := fun _ bits =>
  match bits with
  | .char '&' :: .char '#' :: .char 'x' :: rest => with? isHexDigit "&#x" rest
  | .char '&' :: .char '#' :: .char 'X' :: rest => with? isHexDigit "&#X" rest
  | .char '&' :: .char '#' :: rest => with? Char.isDigit "&#" rest
  | .char '&' :: rest => with? Char.isAlphanum "&" rest
  | _ => none

end Agenda.Markdown.Entity
