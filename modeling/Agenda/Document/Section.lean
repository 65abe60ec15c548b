import Agenda.Text.Basic

/-!
# Header and description

The text of a block falls into a header and a description. They are parted by the first line inside
the trimmed text that holds nothing but spaces and tabs; without such a line all of it is the
header.
-/

namespace Agenda

/-- The two parts of a block. -/
structure Sections where
  header : Text
  description : Option Text
deriving Repr, DecidableEq

namespace Sections

/-- The text before and after the first line that holds only spaces and tabs and has a line before
and a line behind it. -/
def cutAtParagraph? : Text → Option (Text × Text)
  | [] => none
  | c :: rest =>
    match c, rest.dropWhile Text.isSpace with
    | '\n', '\n' :: after => some ([], after)
    | _, _ => (cutAtParagraph? rest).map fun (before, after) => (c :: before, after)

/-- The description, unless there is nothing in it. -/
def descriptionOf (t : Text) : Option Text := if t.isEmpty then none else some t

/-- The parts of the text of a block. -/
def ofText (t : Text) : Sections :=
  let trimmed := Text.trim (Text.dropReturns t)
  match cutAtParagraph? trimmed with
  | none => ⟨trimmed, none⟩
  | some (header, description) => ⟨Text.trim header, descriptionOf (Text.trim description)⟩

end Sections

end Agenda
