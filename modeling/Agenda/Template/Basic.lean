import Agenda.Template.Bundled
import Agenda.Text.Substitute
import Agenda.World

/-!
# Templates

A template is a text with placeholders: a key between two pairs of braces. Filling a key puts a
value in the place of all its placeholders; a template without a placeholder for the key is at
fault.
-/

namespace Agenda.Template

def placeholder (key : Text) : Text := "\x7b\x7b " ++ key ++ " \x7d\x7d"

/-- The template with a value in the place of every placeholder of a key. -/
def fill (template key value : Text) : Except Fault Text :=
  if Text.occursIn (placeholder key) template then
    .ok (Text.replaceAll (placeholder key) value template)
  else .error (.missingPlaceholder (placeholder key))

def fillAll (template : Text) : List (Text × Text) → Except Fault Text
  | [] => .ok template
  | (key, value) :: rest => do fillAll (← fill template key value) rest

/-- The name of a template in messages: its path, or the name of the bundled one if that is empty.
-/
def shownName (path fallback : Text) : Text := if path.isEmpty then fallback else path

/-- The template at a path, or without a path the bundled one of the given name. -/
def load (path : Option Text) (fallback : Text) : World.Act Text :=
  match path with
  | none =>
    match bundled.lookup fallback with
    | none => throw (.fault (.unreadableTemplate fallback ⟨.missing, fallback⟩))
    | some template => return template
  | some path =>
    World.readText path fun refusal =>
      .fault (.unreadableTemplate (shownName path fallback) refusal)

end Agenda.Template
