import Agenda.Shell.Session
import Agenda.Shell.Wildcard

/-!
# Fields

What the words of a command become once their parts are known: the characters, each with whether it
was quoted, the gaps that part one field from the next, and marks where something empty was quoted.
A field with pattern characters that are not quoted becomes the paths that it stands for, if there
are any.
-/

namespace Agenda.Shell

/-- A piece of a word whose parts are known. -/
inductive Glyph
  | char (quoted : Bool) (c : Char)
  /-- The place of something quoted, which may be empty. -/
  | quote
  /-- A place where fields are parted, and the character that does so. -/
  | gap (c : Char)
deriving Repr, DecidableEq

namespace Glyph

/-- The pieces of a value that is not quoted, which is parted at its separators. White space parts
fields only; of another separator each one ends a field, which may be empty. `filled` says that the
field has something in it, and `parted` that white space has ended it. -/
def split (separators : Text) : Bool → Bool → Text → List Glyph
  | _, _, [] => []
  | filled, parted, c :: rest =>
    if !separators.contains c then char false c :: split separators true false rest
    else if c.isWhitespace then .gap c :: split separators filled true rest
    else
      (if filled && parted then [.gap c] else [.quote, .gap c]) ++ split separators false false rest

def ofValue (separators : Text) (quoted : Bool) (value : Text) : List Glyph :=
  if quoted then .quote :: value.map (char true) else split separators false false value

/-- The characters of some pieces. -/
def text (glyphs : List Glyph) : Text :=
  glyphs.filterMap fun
    | .char _ c | .gap c => some c
    | .quote => none

/-- The pattern that some pieces write: a quoted character stands for itself. -/
def pattern (glyphs : List Glyph) : Text :=
  glyphs.flatMap fun
    | .char true c => if "*?[]\\!^-()|+@".toList.contains c then ['\\', c] else [c]
    | .char false c | .gap c => [c]
    | .quote => []

/-- The regular expression that some pieces write: a quoted character stands for itself. -/
def expression (glyphs : List Glyph) : Text :=
  glyphs.flatMap fun
    | .char true c => if ".[]\\*^$+?()\x7b\x7d|".toList.contains c then ['\\', c] else [c]
    | .char false c | .gap c => [c]
    | .quote => []

/-- What some pieces put in the place of a text that was found: an ampersand that is not quoted
stands for it. -/
def inserted (glyphs : List Glyph) (found : Text) : Text :=
  glyphs.flatMap fun
    | .char false '&' => found
    | .char _ c | .gap c => [c]
    | .quote => []

/-- Whether some pieces hold a pattern character that is not quoted; with `groups`, also a sign with
a parenthesis behind it. -/
def isPattern (groups : Bool) : List Glyph → Bool
  | [] => false
  | .char false c :: rest =>
    c == '*' || c == '?' || c == '[' || isPattern groups rest ||
      (groups && Wildcard.groupSigns.contains c && rest.head? == some (.char false '('))
  | _ :: rest => isPattern groups rest

/-- The fields between the gaps. Between two gaps with nothing in between there is no field. -/
def fields (glyphs : List Glyph) : List (List Glyph) :=
  (glyphs.splitOnP fun
    | .gap _ => true
    | _ => false).filter (· ≠ [])

end Glyph

namespace FileTool

structure PathStyle where
  style : Wildcard.Style := {}
  /-- Whether hidden names fit all patterns, and not only those that start with a dot; and whether a
  directory has names for itself and for the one above it. -/
  hidden : Bool := false
  dots : Bool := true
  /-- Whether two stars stand for any number of directories. -/
  deep : Bool := false

namespace PathStyle

def names (paths : PathStyle) (disk : Disk) (place : Place) (pattern : Text) : List Text :=
  if pattern.isEmpty then [[]]
  else if pattern = "..".toList ∨ pattern = ".".toList then [pattern]
  else
    let dots : List Text := if paths.dots then [".", ".."] else []
    (dots ++ namesIn disk place true).filter fun name =>
      (paths.hidden || name.head? != some '.' || pattern.head? == some '.') &&
        Wildcard.fits paths.style pattern name

/-- The directories below a place down to some depth, with the paths to them. -/
def below (paths : PathStyle) (disk : Disk) : Nat → Place → Text → List (Text × Place)
  | 0, _, _ => []
  | depth + 1, place, before =>
    (paths.names disk place ['*']).flatMap fun name =>
      let inside := place ++ [name]
      if disk.isDirectory inside then
        (before ++ name ++ "/", inside) :: paths.below disk depth inside (before ++ name ++ "/")
      else []

/-- The paths below a place that fit the patterns of their names one after the other. -/
def fitting (paths : PathStyle) (disk : Disk) (place : Place) (before : Text) :
    List Text → List Text
  | [] => []
  | pattern :: rest =>
    let isDeep : Bool := paths.deep ∧ pattern = "**".toList
    let starts := if isDeep then (before, place) :: paths.below disk 64 place before else []
    match rest with
    | [] =>
      if isDeep then starts.flatMap fun (before, place) =>
        (paths.names disk place ['*']).map (before ++ ·)
      else (paths.names disk place pattern).map (before ++ ·)
    | _ :: _ =>
      if isDeep then starts.flatMap fun (before, place) => paths.fitting disk place before rest
      else (paths.names disk place pattern).flatMap fun name =>
        match disk.walk true Disk.linkLimit place (if name.isEmpty then [] else [name]) with
        | .error _ => []
        | .ok below =>
          if disk.isDirectory below then paths.fitting disk below (before ++ name ++ "/") rest
          else []

def all (paths : PathStyle) (disk : Disk) (here : Place) (pattern : Text) : List Text :=
  let found := match pattern with
    | '/' :: rest => paths.fitting disk [] "/" (rest.splitOn '/')
    | pattern => paths.fitting disk here [] (pattern.splitOn '/')
  found.mergeSort fun a b => decide (¬ raw b < raw a)

end PathStyle

end FileTool

namespace Session

/-- Whether a switch of the larger language is on. -/
def isSwitched (session : Session) (name : Text) : Bool :=
  session.large && session.switches.contains name

/-- How the patterns of a script are read; `asked` says that they stand in a question. -/
def style (session : Session) (asked : Bool) : Wildcard.Style where
  groups := session.large && (asked || session.isSwitched "extglob")
  fold := session.isSwitched "nocasematch"
  caret := session.large

/-- How the patterns of paths of a script are read. -/
def pathStyle (session : Session) : FileTool.PathStyle where
  style := { session.style false with fold := session.isSwitched "nocaseglob" }
  hidden := session.isSwitched "dotglob"
  dots := !session.large
  deep := session.isSwitched "globstar"

/-- The words that a field becomes: the paths that it stands for, or else its own text. Where
patterns have to stand for a path there are none if it stands for nothing. -/
def wordsOfField? (session : Session) (field : List Glyph) : Option (List Text) :=
  let paths := session.pathStyle
  if Glyph.isPattern paths.style.groups field ∧ !session.plainPaths then
    match paths.all session.disk session.here (Glyph.pattern field) with
    | [] =>
      if session.isSwitched "failglob" then none
      else some (if session.isSwitched "nullglob" then [] else [Glyph.text field])
    | found => some found
  else some [Glyph.text field]

def wordsOfGlyphs (session : Session) (glyphs : List Glyph) : List Text × Session :=
  (Glyph.fields glyphs).foldl (fun (found, session) field =>
    match session.wordsOfField? field with
    | some words => (found ++ words, session)
    | none => (found, session.stops (.unmatched (Glyph.text field)))) ([], session)

end Session

end Agenda.Shell
