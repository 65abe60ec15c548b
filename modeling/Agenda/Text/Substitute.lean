import Agenda.Text.Basic

/-!
# Occurrences and their replacement

Occurrences of a text inside another one are looked for from the left and do not overlap: the search
goes on behind the end of the last one found.
-/

namespace Agenda.Text

def occursIn (pattern : Text) : Text → Bool
  | [] => pattern.isEmpty
  | c :: rest => startsWith pattern (c :: rest) || occursIn pattern rest

/-- Replaces every occurrence of `pattern` behind the first `skip` characters, which are dropped:
they are what is left of the occurrence replaced last. -/
def replaceFrom (pattern new : Text) : Nat → Text → Text
  | _, [] => []
  | skip + 1, _ :: rest => replaceFrom pattern new skip rest
  | 0, c :: rest =>
    if startsWith pattern (c :: rest) then new ++ replaceFrom pattern new (pattern.length - 1) rest
    else c :: replaceFrom pattern new 0 rest

/-- Replaces every occurrence of a non-empty text by another one. -/
def replaceAll (pattern new t : Text) : Text := replaceFrom pattern new 0 t

@[simp] theorem replaceAll_nil (pattern new : Text) : replaceAll pattern new [] = [] := rfl

/-- Inserted text is not searched again. -/
example : replaceAll "aa" "a" "aaaaa" = "aaa".toList := by decide

end Agenda.Text
