import Agenda.Fault
import Agenda.Text.Basic

/-!
# Headers

A header is a list of settings, one a line: a key, a colon and a value. Of two settings with the
same key the later one counts. A line that is not blank and has no colon is a fault of the whole
header.
-/

namespace Agenda

/-- The settings of a header in the order of their lines. -/
abbrev Header := List (Text × Text)

namespace Header

/-- The setting that a line makes; key and value lose the blanks around them. -/
def settingOf? (line : Text) : Option (Text × Text) :=
  (Text.cutAt? ':' line).map fun (key, value) => (Text.trim key, Text.trim value)

/-- The settings of some lines; the first line without a colon is the fault. -/
def ofLines : List Text → Except Fault Header
  | [] => .ok []
  | line :: rest =>
    if Text.allBlank line then ofLines rest
    else match settingOf? line with
      | none => .error (.malformedField line)
      | some setting => (ofLines rest).map (setting :: ·)

def ofText (t : Text) : Except Fault Header := ofLines (Text.lines t)

/-- The value of a key: that of its last setting. -/
def get? (header : Header) (key : Text) : Option Text :=
  match header with
  | [] => none
  | (k, value) :: rest =>
    match get? rest key with
    | some later => some later
    | none => if k = key then some value else none

/-- The keys of a header with their values, each key once. -/
def bindings (header : Header) : List (Text × Text) :=
  header.foldl (fun bound (key, value) => bound.filter (·.1 ≠ key) ++ [(key, value)]) []

theorem get?_append (first second : Header) (key : Text) :
    get? (first ++ second) key = (get? second key).or (get? first key) := by
  induction first with
  | nil => simp [get?]
  | cons setting rest ih =>
    obtain ⟨k, value⟩ := setting
    simp only [List.cons_append, get?, ih]
    cases get? second key <;> simp

end Header

end Agenda
