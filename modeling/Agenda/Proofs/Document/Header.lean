import Agenda.Document.Writer
import Agenda.Proofs.Document.Section
import Agenda.Proofs.Document.Segment

/-!
# Settings on lines of their own

A setting whose key has no colon and whose parts are trimmed is read back from its line, and so are
several settings from theirs (`ofLines_map_lineOf`). The colon keeps such a line from being blank,
from ending a header and from being a delimiter.
-/

namespace Agenda

namespace Header

/-- What a text needs to be read back as a key. -/
def IsKey (key : Text) : Prop := ':' ∉ key ∧ Text.trim key = key ∧ '\n' ∉ key

instance (key : Text) : Decidable (IsKey key) := inferInstanceAs (Decidable (_ ∧ _))

/-- What a setting needs to be read back from its line. -/
structure IsPlain (setting : Text × Text) : Prop where
  isKey : IsKey setting.1
  value_trim : Text.trim setting.2 = setting.2
  value_line : '\n' ∉ setting.2

variable {setting : Text × Text}

theorem lineOf_eq (setting : Text × Text) :
    lineOf setting = setting.1 ++ ':' :: ' ' :: setting.2 := by
  rw [lineOf, List.append_assoc]
  rfl

theorem colon_mem_lineOf (setting : Text × Text) : ':' ∈ lineOf setting := by
  rw [lineOf_eq]
  exact List.mem_append_right _ List.mem_cons_self

theorem cutAt?_append {mark : Char} {before : Text} (h : mark ∉ before) (after : Text) :
    Text.cutAt? mark (before ++ mark :: after) = some (before, after) := by
  induction before with
  | nil => simp [Text.cutAt?]
  | cons c before ih =>
    rw [List.mem_cons, not_or] at h
    simp [Text.cutAt?, Ne.symm h.1, ih h.2]

theorem settingOf?_lineOf (h : IsPlain setting) : settingOf? (lineOf setting) = some setting := by
  have hspace : Text.isBlank ' ' = true := by decide
  rw [settingOf?, lineOf_eq, cutAt?_append h.isKey.1]
  simp only [Option.map_some, h.isKey.2.1, Text.trim_cons_of_isBlank hspace, h.value_trim]

theorem allBlank_lineOf (setting : Text × Text) : Text.allBlank (lineOf setting) = false := by
  have hcolon : Text.isBlank ':' = false := by decide
  rw [Text.allBlank, List.all_eq_false]
  exact ⟨':', colon_mem_lineOf setting, by simp [hcolon]⟩

theorem ofLines_map_lineOf {settings : Header} (h : ∀ setting ∈ settings, IsPlain setting) :
    ofLines (settings.map lineOf) = .ok settings := by
  induction settings with
  | nil => rfl
  | cons setting rest ih =>
    have hsetting := settingOf?_lineOf (h setting List.mem_cons_self)
    have hrest := ih fun other hother => h other (List.mem_cons_of_mem _ hother)
    simp only [List.map_cons, ofLines, allBlank_lineOf, hsetting, hrest, Bool.false_eq_true,
      if_false]
    rfl

theorem newline_not_mem_lineOf (h : IsPlain setting) : '\n' ∉ lineOf setting := by
  rw [lineOf_eq, List.mem_append, List.mem_cons, List.mem_cons]
  rintro (hkey | hcolon | hspace | hvalue)
  · exact h.isKey.2.2 hkey
  · exact absurd hcolon (by decide)
  · exact absurd hspace (by decide)
  · exact h.value_line hvalue

theorem isHeaderLine_lineOf (h : IsPlain setting) : Sections.IsHeaderLine (lineOf setting) where
  one_line := newline_not_mem_lineOf h
  not_space := by
    rw [List.all_eq_false]
    exact ⟨':', colon_mem_lineOf setting, by decide⟩

/-- A line with a colon is no delimiter. -/
theorem isDelimiter_lineOf (setting : Text × Text) : isDelimiter (lineOf setting) = false := by
  rw [← Bool.not_eq_true, isDelimiter_iff]
  rintro ⟨before, after, hline, hbefore, hafter⟩
  have hcolon := colon_mem_lineOf setting
  rw [hline] at hcolon
  simp only [List.mem_append, List.mem_cons] at hcolon
  rcases hcolon with h | h | h | h | h
  · exact absurd (List.all_eq_true.mp hbefore _ h) (by decide)
  · exact absurd h (by decide)
  · exact absurd h (by decide)
  · exact absurd h (by decide)
  · exact absurd (List.all_eq_true.mp hafter _ h) (by decide)

theorem getLast?_lineOf_ne (h : IsPlain setting) : (lineOf setting).getLast? ≠ some '\r' := by
  have hvalue := (Text.trim_eq_self_iff.mp h.value_trim).2
  have hlast : (lineOf setting).getLast? = setting.2.getLast?.or (some ' ') := by
    rw [lineOf_eq, List.getLast?_append, List.getLast?_cons_cons, List.getLast?_cons]
    cases setting.2.getLast? <;> rfl
  rw [hlast]
  cases hend : setting.2.getLast? with
  | none => decide
  | some c =>
    intro hreturn
    have hc : c = '\r' := Option.some.inj hreturn
    have hblank := hvalue c hend
    rw [hc] at hblank
    exact absurd hblank (by decide)

end Header

end Agenda
