/-!
# Text

Text is a list of characters. This module holds what every other one asks of it: cutting at a
character, joining with a separator, lines, and the two ways in which line ends are made uniform.

Two classes of white space are told apart. *Blanks* are every space, tab and line end of Unicode;
they are trimmed off the ends of keys, values and blocks. A *delimiter* or a *paragraph end* is
looser than that: only the plain space and the tab may stand in it.
-/

namespace Agenda

/-- Text is a list of Unicode characters, so that the rules on it are read off by recursion. -/
abbrev Text := List Char

instance : Coe String Text := ⟨String.toList⟩

namespace Text

/-- The parts put one after the other with a separator between neighbours. -/
def join (separator : Text) (parts : List Text) : Text := separator.intercalate parts

/-- The lines of a text: what stands before, between and after its line feeds. -/
def lines (t : Text) : List Text := t.splitOn '\n'

/-- Lines put together again with a line feed between neighbours. -/
def unlines (ls : List Text) : Text := join ['\n'] ls

/-- A carriage return directly before a line feed is dropped; any other one is kept. -/
def dropReturns : Text → Text
  | [] => []
  | '\r' :: '\n' :: rest => '\n' :: dropReturns rest
  | c :: rest => c :: dropReturns rest

/-- Every line end, be it a line feed, a carriage return or the pair of them, becomes one line
feed. This is how files and the standard input are read. -/
def foldNewlines : Text → Text
  | [] => []
  | '\r' :: '\n' :: rest => '\n' :: foldNewlines rest
  | '\r' :: rest => '\n' :: foldNewlines rest
  | c :: rest => c :: foldNewlines rest

/-- The text before and after the first occurrence of a character, if it occurs. -/
def cutAt? (mark : Char) : Text → Option (Text × Text)
  | [] => none
  | c :: rest =>
    if c = mark then some ([], rest)
    else (cutAt? mark rest).map fun (before, after) => (c :: before, after)

def startsWith (start t : Text) : Bool := start.isPrefixOf t

def endsWith (ending t : Text) : Bool := ending.isSuffixOf t

theorem cutAt?_eq_none {mark : Char} {t : Text} : cutAt? mark t = none ↔ mark ∉ t := by
  induction t with
  | nil => simp [cutAt?]
  | cons c rest ih =>
    by_cases h : c = mark
    · simp [cutAt?, h]
    · simp [cutAt?, h, ih, Ne.symm h]

theorem eq_append_of_cutAt? {mark : Char} {t before after : Text}
    (h : cutAt? mark t = some (before, after)) : t = before ++ mark :: after ∧ mark ∉ before := by
  induction t generalizing before with
  | nil => simp [cutAt?] at h
  | cons c rest ih =>
    by_cases hc : c = mark
    · simp [cutAt?, hc] at h
      simp [h, hc]
    · simp only [cutAt?, hc, if_false, Option.map_eq_some_iff, Prod.mk.injEq, Prod.exists] at h
      obtain ⟨before', after', h', rfl, rfl⟩ := h
      have := ih h'
      simp [this.1, this.2, Ne.symm hc]

/-! ### Blanks -/

/-- White space in the wide sense: what trimming removes. -/
def isBlank (c : Char) : Bool :=
  let n := c.toNat
  (0x09 ≤ n && n ≤ 0x0D) || (0x1C ≤ n && n ≤ 0x20) || n == 0x85 || n == 0xA0 || n == 0x1680 ||
    (0x2000 ≤ n && n ≤ 0x200A) || n == 0x2028 || n == 0x2029 || n == 0x202F || n == 0x205F ||
    n == 0x3000

/-- White space in the narrow sense: the plain space and the tab. -/
def isSpace (c : Char) : Bool := c == ' ' || c == '\t'

/-- Whether a text holds nothing but blanks. -/
def allBlank (t : Text) : Bool := t.all isBlank

def trimStart (t : Text) : Text := t.dropWhile isBlank

def trimEnd (t : Text) : Text := (t.reverse.dropWhile isBlank).reverse

/-- The text without the blanks at either end. -/
def trim (t : Text) : Text := trimEnd (trimStart t)

theorem isBlank_of_isSpace {c : Char} (h : isSpace c) : isBlank c := by
  simp only [isSpace, Bool.or_eq_true, beq_iff_eq] at h
  rcases h with rfl | rfl <;> decide

/-- Zero-width characters are not blanks. -/
example : ¬ isBlank (Char.ofNat 0x200B) ∧ ¬ isBlank (Char.ofNat 0xFEFF) := by decide

end Text

end Agenda
