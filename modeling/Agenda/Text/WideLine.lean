import Agenda.Text.Basic

/-!
# Lines of printed output

What a tool prints is cut into lines at every character that ends a line or a page somewhere, not
only at line feeds. Nothing behind the last end of a line is no line.
-/

namespace Agenda.Text

def endsLine (c : Char) : Bool :=
  let n := c.toNat
  (0x0A ≤ n && n ≤ 0x0D) || (0x1C ≤ n && n ≤ 0x1E) || n == 0x85 || n == 0x2028 || n == 0x2029

def wideLines : Text → List Text
  | [] => []
  | c :: rest =>
    if endsLine c then [] :: wideLines rest
    else match wideLines rest with
      | [] => [[c]]
      | line :: others => (c :: line) :: others

example : wideLines "a\n\x0bb".toList = ["a".toList, [], "b".toList] := by decide

end Agenda.Text
