import Agenda.Text.Basic

/-!
# Paths

A path is written as names between slashes. Taken apart, empty names and single dots are dropped, so
that one path has one written form. A path that starts with two slashes, and not with three, is kept
apart from one that starts with a single slash. The last name of a path falls into a stem and a
suffix at its last dot, unless the dot is its first or last character.
-/

namespace Agenda.Disk

/-- A path taken apart. -/
structure Path where
  /-- The number of slashes that it starts with. -/
  slashes : Nat
  names : List Text
deriving Repr, DecidableEq

namespace Path

/-- The number of slashes that count at the start of a text. -/
def slashesOf : Text → Nat
  | '/' :: '/' :: '/' :: _ => 1
  | '/' :: '/' :: _ => 2
  | '/' :: _ => 1
  | _ => 0

def ofText (t : Text) : Path :=
  ⟨slashesOf t, (t.splitOn '/').filter fun name => name ≠ [] ∧ name ≠ ['.']⟩

/-- A path written out; the path without names is a dot. -/
def text (path : Path) : Text :=
  let names := Text.join "/" path.names
  if path.slashes = 0 ∧ path.names.isEmpty then "."
  else List.replicate path.slashes '/' ++ names

def name (path : Path) : Text := path.names.getLast?.getD []

def parent (path : Path) : Path := { path with names := path.names.dropLast }

def child (path : Path) (name : Text) : Path := { path with names := path.names ++ [name] }

def withName (path : Path) (name : Text) : Path := path.parent.child name

/-- A name cut at its last dot, if there is a dot inside it. -/
def cutName? (name : Text) : Option (Text × Text) :=
  match Text.cutAt? '.' name.reverse with
  | some (c :: suffix, d :: stem) => some ((d :: stem).reverse, '.' :: (c :: suffix).reverse)
  | _ => none

/-- The last name without its suffix. -/
def stem (path : Path) : Text := ((cutName? path.name).map (·.1)).getD path.name

/-- The path with another suffix in the place of its own. -/
def withSuffix (path : Path) (suffix : Text) : Path := path.withName (path.stem ++ suffix)

example : (ofText "./d//x.v2.tex".toList).stem = "x.v2".toList ∧
    (ofText "./d//x.v2.tex".toList).parent.text = "d".toList := by decide

end Path

end Agenda.Disk
