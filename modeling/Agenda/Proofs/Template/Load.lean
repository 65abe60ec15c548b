import Agenda.Proofs.World.Notes
import Agenda.Template.Basic

/-!
# Loading a template while notes are written

A bundled template is the same in every world. A template from a file is what the file holds, as
long as no notes are written to a log file, which might be that very file.
-/

namespace Agenda

namespace World

/-- What reading the text of a file gives. -/
def textAt (path : Text) (refuse : Disk.Refusal → Trouble) (disk : Disk) (here : Place) :
    Except Trouble Text :=
  if path.contains '\x00' then .error .zeroInside
  else
    match disk.read here path with
    | .error refusal => .error (refuse refusal)
    | .ok bytes => (Text.ofFile? bytes).elim (.error .undecodable) .ok

/-- Reading a file leaves the world as it was and looks at nothing but the disk, from the directory
of the run. -/
theorem readText_eq (path : Text) (refuse : Disk.Refusal → Trouble) (world : World) :
    readText path refuse world = (textAt path refuse world.disk world.here, world) := by
  cases hzero : path.contains '\x00' with
  | true => rw [readText, Action.bind_of_error (checkZero_of_zero hzero world), textAt, if_pos hzero]
  | false =>
    rw [readText, Action.bind_of_ok (checkZero_of_clean hzero world), Action.bind_get, textAt, hzero]
    cases world.disk.read world.here path with
    | error refusal => rfl
    | ok bytes =>
      simp only [Bool.false_eq_true, if_false]
      cases Text.ofFile? bytes <;> rfl

end World

namespace Template

def loaded (path : Option Text) (fallback : Text) (disk : Disk) (here : Place) :
    Except Trouble Text :=
  match path with
  | none =>
    match bundled.lookup fallback with
    | none => .error (.fault (.unreadableTemplate fallback ⟨.missing, fallback⟩))
    | some template => .ok template
  | some path =>
    World.textAt path (fun refusal => .fault (.unreadableTemplate (shownName path fallback) refusal))
      disk here

theorem load_eq (path : Option Text) (fallback : Text) (world : World) :
    load path fallback world = (loaded path fallback world.disk world.here, world) := by
  cases path with
  | none =>
    simp only [load, loaded]
    cases bundled.lookup fallback <;> rfl
  | some path => exact World.readText_eq ..

theorem gives_load_of_bundled {fallback template : Text}
    (h : bundled.lookup fallback = some template) (world : World) :
    Action.Gives world (load none fallback) (.ok template) := by
  simp only [load, h]
  exact Action.gives_pure world template

end Template

end Agenda
