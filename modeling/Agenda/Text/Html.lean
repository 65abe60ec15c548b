import Agenda.Text.Basic

/-!
# Text on a page

How plain text is written on a page so that no character of it is taken for markup. Between tags
only the ampersand and the angle brackets have to be replaced; the full form replaces both quotes as
well.
-/

namespace Agenda.Text

def htmlChar (c : Char) : Text :=
  if c = '&' then "&amp;"
  else if c = '<' then "&lt;"
  else if c = '>' then "&gt;"
  else [c]

def htmlCharFull (c : Char) : Text :=
  if c = '\x22' then "&quot;"
  else if c = '\x27' then "&#x27;"
  else htmlChar c

def html (t : Text) : Text := t.flatMap htmlChar

def htmlFull (t : Text) : Text := t.flatMap htmlCharFull

theorem bracket_not_mem_htmlFull (t : Text) : '<' ∉ htmlFull t ∧ '>' ∉ htmlFull t := by
  have char (c : Char) : '<' ∉ htmlCharFull c ∧ '>' ∉ htmlCharFull c := by
    unfold htmlCharFull htmlChar
    split
    · decide
    split
    · decide
    split
    · decide
    split
    · decide
    split
    · decide
    · rename_i hl hg
      simp [Ne.symm hl, Ne.symm hg]
  simp only [htmlFull, List.mem_flatMap, not_exists, not_and]
  exact ⟨fun c _ => (char c).1, fun c _ => (char c).2⟩

end Agenda.Text
