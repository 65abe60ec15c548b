import Agenda.Text.Basic

/-!
# Shortened text

A text longer than its limit is cut and marked with an ellipsis. The ellipsis counts towards the
limit, unless the limit leaves no room for anything beside it: then the text keeps as many
characters as the limit says and the ellipsis follows.
-/

namespace Agenda.Text

def ellipsis : Text := "..."

/-- The first `count` characters; below zero, all but the last `-count`. -/
def takeFront (count : Int) (t : Text) : Text :=
  if 0 ≤ count then t.take count.toNat else t.take (t.length - count.natAbs)

/-- The text cut to `limit` characters. -/
def shorten (t : Text) (limit : Int) : Text :=
  if (t.length : Int) ≤ limit then t
  else if (ellipsis.length : Int) < limit then takeFront (limit - ellipsis.length) t ++ ellipsis
  else takeFront limit t ++ ellipsis

example : shorten "conference" 8 = "confe...".toList ∧ shorten "conference" 2 = "co...".toList := by
  decide

end Agenda.Text
