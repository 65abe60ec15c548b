import Agenda.Proofs.Document.Segment
import Agenda.Proofs.Document.Stretch
import Mathlib.Data.List.Nodup

/-!
# The blocks of a document, line by line

The segments of a document are its stretches, one after the other (`Segment.Parted`), and a block is
a stretch with text in it (`Block.Fills`). Main statement: the blocks are numbered from 1, every
line of text lies in exactly one of them, and two lie in the same one just when no delimiter stands
between them (`Block.ofDocument_partition`).
-/

namespace Agenda

/-! ### The segments are the stretches -/

namespace Segment

def past (segment : Segment) : Nat := segment.start + segment.lines.length

/-- Lines, the first of them with number `start`, cut at their delimiters into segments. -/
inductive Parted : Nat → List Text → List Segment → Prop
  | last {start : Nat} {ls : List Text} (h : ∀ line ∈ ls, isDelimiter line = false) :
      Parted start ls [⟨start, ls⟩]
  | cut {start : Nat} {ls rest : List Text} {delimiter : Text} {segments : List Segment}
      (h : ∀ line ∈ ls, isDelimiter line = false) (hdelimiter : isDelimiter delimiter = true)
      (hrest : Parted (start + ls.length + 1) rest segments) :
      Parted start (ls ++ delimiter :: rest) (⟨start, ls⟩ :: segments)

/-- The recursion that finds the segments cuts at the delimiters: a plain line joins the first
segment of what follows it. -/
theorem parted_ofLines (start : Nat) (ls : List Text) : Parted start ls (ofLines start ls) := by
  induction ls generalizing start with
  | nil => exact .last fun _ hline => absurd hline List.not_mem_nil
  | cons line rest ih =>
    have hrest := ih (start + 1)
    cases hline : isDelimiter line with
    | true =>
      rw [ofLines, if_pos hline, ← List.nil_append (line :: rest)]
      exact .cut (fun _ hmem => absurd hmem List.not_mem_nil) hline hrest
    | false =>
      simp only [ofLines, hline, Bool.false_eq_true, if_false]
      generalize ofLines (start + 1) rest = segments at hrest
      cases hrest with
      | last h => exact .last (List.forall_mem_cons.mpr ⟨hline, h⟩)
      | @cut _ ls _ _ _ h hdelimiter hrest =>
        rw [← List.cons_append]
        refine .cut (List.forall_mem_cons.mpr ⟨hline, h⟩) hdelimiter ?_
        rwa [List.length_cons, ← Nat.add_assoc, Nat.add_right_comm start]

namespace Parted

variable {document : Text} {start n : Nat} {ls : List Text} {segments : List Segment}

theorem start_le (h : Parted start ls segments) : ∀ segment ∈ segments, start ≤ segment.start := by
  induction h with
  | last _ => exact List.forall_mem_singleton.mpr (Nat.le_refl _)
  | cut _ _ _ ih =>
    refine List.forall_mem_cons.mpr ⟨Nat.le_refl _, fun segment hsegment => ?_⟩
    have hstart := ih segment hsegment
    omega

/-- The segments lie one behind the other. -/
theorem pairwise (h : Parted start ls segments) :
    segments.Pairwise fun segment later => segment.past ≤ later.start := by
  induction h with
  | last _ => exact List.pairwise_singleton ..
  | cut _ _ hrest ih =>
    exact List.pairwise_cons.mpr
      ⟨fun later hlater => Nat.le_of_succ_le (hrest.start_le later hlater), ih⟩

theorem isStretch (h : Parted start ls segments) (htail : Block.IsTail document start ls) :
    ∀ segment ∈ segments, Block.IsStretch document segment.start segment.past ∧
      Block.linesBetween document segment.start segment.past = segment.lines := by
  induction h with
  | @last start ls hplain =>
    rw [← List.append_nil ls] at htail
    exact List.forall_mem_singleton.mpr
      ⟨htail.isStretch hplain (by rintro _ ⟨⟩), htail.linesBetween_eq⟩
  | cut hplain hdelimiter _ ih =>
    refine List.forall_mem_cons.mpr ⟨⟨htail.isStretch hplain ?_, htail.linesBetween_eq⟩,
      ih (htail.behind hdelimiter)⟩
    rintro _ ⟨⟩
    exact hdelimiter

/-- Every line that is no delimiter lies in a segment. -/
theorem exists_mem (h : Parted start ls segments) (htail : Block.IsTail document start ls)
    (hstart : start ≤ n) (hn : n ≤ (Block.documentLines document).length)
    (hplain : ¬ Block.DelimiterAt document n) :
    ∃ segment ∈ segments, segment.start ≤ n ∧ n < segment.past := by
  induction h with
  | @last start ls _ =>
    have hlength := htail.length_eq
    exact ⟨⟨start, ls⟩, List.mem_singleton_self _, hstart, show n < start + ls.length by omega⟩
  | @cut start ls rest delimiter segments _ hdelimiter _ ih =>
    have hne : n ≠ start + ls.length := fun heq => hplain (heq ▸ htail.delimiterAt hdelimiter)
    by_cases hlt : n < start + ls.length
    · exact ⟨⟨start, ls⟩, List.mem_cons_self, hstart, hlt⟩
    · obtain ⟨segment, hsegment, hmem⟩ := ih (htail.behind hdelimiter) (by omega)
      exact ⟨segment, List.mem_cons_of_mem _ hsegment, hmem⟩

end Parted

/-! ### The text of a segment -/

variable {segment : Segment}

theorem isBlock_iff : segment.isBlock = true ↔ ∃ line ∈ segment.lines, Text.allBlank line = false := by
  rw [isBlock, text, Text.allBlank_unlines, Bool.not_eq_true', List.all_eq_false]
  simp only [Bool.not_eq_true]

/-- The first line of a segment with something in it: a line of the segment that is not blank,
behind blank ones only. -/
theorem firstLine_spec (h : segment.isBlock = true) :
    ∃ i line, segment.firstLine = segment.start + i ∧ segment.lines[i]? = some line ∧
      Text.allBlank line = false ∧
        ∀ j < i, ∀ other, segment.lines[j]? = some other → Text.allBlank other = true := by
  obtain ⟨line, hline, htext⟩ := isBlock_iff.mp h
  have hlt : segment.lines.findIdx (fun line => !Text.allBlank line) < segment.lines.length :=
    List.findIdx_lt_length_of_exists ⟨line, hline, by rw [htext]; rfl⟩
  refine ⟨_, _, rfl, List.getElem?_eq_getElem hlt, ?_, ?_⟩
  · simpa using List.findIdx_getElem (w := hlt)
  · intro j hj other hother
    obtain ⟨_, rfl⟩ := List.getElem?_eq_some_iff.mp hother
    simpa using List.not_of_lt_findIdx hj

theorem start_le_firstLine (segment : Segment) : segment.start ≤ segment.firstLine :=
  Nat.le_add_right ..

theorem firstLine_lt_past (h : segment.isBlock = true) : segment.firstLine < segment.past := by
  obtain ⟨i, line, hfirst, hline, _⟩ := firstLine_spec h
  have hlt := (List.getElem?_eq_some_iff.mp hline).1
  rw [hfirst, past]
  omega

end Segment

/-! ### The blocks are the stretches with text in them -/

namespace Block

/-- Whether a block is a stretch of a document: its text is made of all lines of the stretch, and
its line is the first one that is not blank. -/
structure Fills (document : Text) (block : Block) (first past : Nat) : Prop
    extends IsStretch document first past where
  text_eq : block.text = Text.unlines (linesBetween document first past)
  first_le_line : first ≤ block.line
  line_lt_past : block.line < past
  textAt_line : TextAt document block.line
  line_least : ∀ n, first ≤ n → n < block.line → ¬ TextAt document n

/-- Whether the line with a number lies in a block. -/
def Holds (document : Text) (block : Block) (n : Nat) : Prop :=
  ∃ first past, Fills document block first past ∧ first ≤ n ∧ n < past

variable {document : Text} {block other : Block} {m n first past first' past' : Nat}

theorem lineAt?_start_add {segment : Segment}
    (h : IsStretch document segment.start segment.past)
    (hlines : linesBetween document segment.start segment.past = segment.lines) {i : Nat}
    (hi : segment.start + i < segment.past) :
    lineAt? document (segment.start + i) = segment.lines[i]? := by
  rw [lineAt?_add_of_lt h.first_pos hi, hlines]

/-- A segment with something in it fills its stretch, whatever its number as a block is. -/
theorem fills_ofSegment {segment : Segment} (hblock : segment.isBlock = true)
    (h : IsStretch document segment.start segment.past)
    (hlines : linesBetween document segment.start segment.past = segment.lines) (number : Nat) :
    Fills document (ofSegment number segment) segment.start segment.past where
  toIsStretch := h
  text_eq := by rw [hlines]; rfl
  first_le_line := segment.start_le_firstLine
  line_lt_past := Segment.firstLine_lt_past hblock
  textAt_line := by
    obtain ⟨i, line, hfirst, hline, htext, _⟩ := Segment.firstLine_spec hblock
    have hpast := Segment.firstLine_lt_past hblock
    rw [hfirst] at hpast
    have hat := lineAt?_start_add h hlines hpast
    show TextAt document segment.firstLine
    rw [hfirst]
    refine ⟨line, hat.trans hline, ?_, htext⟩
    by_contra hdelimiter
    exact h.no_delimiter _ (Nat.le_add_right ..) hpast
      ⟨line, hat.trans hline, Bool.not_eq_false _ ▸ hdelimiter⟩
  line_least n hn hlt := by
    obtain ⟨i, _, hfirst, _, _, hblank⟩ := Segment.firstLine_spec hblock
    have hpast := Segment.firstLine_lt_past hblock
    obtain ⟨j, rfl⟩ := Nat.exists_eq_add_of_le hn
    change segment.start + j < segment.firstLine at hlt
    rintro ⟨line, hline, _, htext⟩
    rw [lineAt?_start_add h hlines (by omega)] at hline
    rw [hblank j (by omega) line hline] at htext
    cases htext

namespace Fills

/-- A block fills one stretch only. -/
theorem unique (h : Fills document block first past) (h' : Fills document block first' past') :
    first = first' ∧ past = past' :=
  h.toIsStretch.eq_of_mem h'.toIsStretch ⟨h.first_le_line, h.line_lt_past⟩
    ⟨h'.first_le_line, h'.line_lt_past⟩

/-- Blocks that fill one stretch start in the same line. -/
theorem line_eq (h : Fills document block first past) (h' : Fills document other first past) :
    block.line = other.line := by
  rcases Nat.lt_trichotomy block.line other.line with hlt | heq | hlt
  · exact absurd h.textAt_line (h'.line_least _ h.first_le_line hlt)
  · exact heq
  · exact absurd h'.textAt_line (h.line_least _ h'.first_le_line hlt)

/-- The lines of the text of a block are the lines of its stretch. -/
theorem lines_text (h : Fills document block first past) :
    Text.lines block.text = linesBetween document first past := by
  have hsub : ∀ line ∈ linesBetween document first past, '\n' ∉ line := fun line hline =>
    Text.newline_not_mem_of_mem_lines (List.mem_of_mem_drop (List.mem_of_mem_take hline))
  rw [h.text_eq, Text.lines_unlines _ hsub]
  -- The line of the block is one of them.
  obtain ⟨i, hi⟩ := Nat.exists_eq_add_of_le h.first_le_line
  obtain ⟨line, hline, _⟩ := h.textAt_line
  rw [hi, lineAt?_add_of_lt h.first_pos (hi ▸ h.line_lt_past)] at hline
  exact List.ne_nil_of_mem (List.mem_of_getElem? hline)

theorem not_isDelimiter (h : Fills document block first past) :
    ∀ line ∈ Text.lines block.text, isDelimiter line = false := by
  intro line hline
  rw [h.lines_text] at hline
  obtain ⟨i, hi⟩ := List.mem_iff_getElem?.mp hline
  have hlt := (List.getElem?_eq_some_iff.mp hi).1
  rw [linesBetween, List.length_take] at hlt
  have hpast : first + i < past := by
    have hle := h.first_le
    omega
  by_contra hdelimiter
  exact h.no_delimiter (first + i) (Nat.le_add_right ..) hpast
    ⟨line, (lineAt?_add_of_lt h.first_pos hpast).trans hi, Bool.not_eq_false _ ▸ hdelimiter⟩

end Fills

/-- A line lies in at most one stretch that is a block. -/
theorem Holds.line_eq (h : Holds document block n) (h' : Holds document other n) :
    block.line = other.line := by
  obtain ⟨first, past, hfills, hn⟩ := h
  obtain ⟨first', past', hfills', hn'⟩ := h'
  obtain ⟨rfl, rfl⟩ := hfills.toIsStretch.eq_of_mem hfills'.toIsStretch hn hn'
  exact hfills.line_eq hfills'

/-! ### All blocks of a document -/

/-- The segments of a document. -/
theorem parted_documentLines (document : Text) :
    Segment.Parted 1 (documentLines document) (Segment.ofLines 1 (documentLines document)) :=
  Segment.parted_ofLines 1 _

theorem exists_fills_of_mem (h : block ∈ ofDocument document) :
    ∃ first past, Fills document block first past := by
  obtain ⟨segment, hsegment, hblock, heq⟩ := exists_segment_of_mem_ofSegments h
  obtain ⟨hstretch, hlines⟩ :=
    (parted_documentLines document).isStretch (isTail_documentLines document) segment hsegment
  rw [heq]
  exact ⟨_, _, fills_ofSegment hblock hstretch hlines _⟩

/-- Every line of text lies in a block. -/
theorem exists_holds (h : TextAt document n) :
    ∃ block ∈ ofDocument document, Holds document block n := by
  have hparted := parted_documentLines document
  have htail := isTail_documentLines document
  obtain ⟨line, hline, _, htext⟩ := id h
  obtain ⟨hpos, hle⟩ := bounds_of_lineAt? hline
  obtain ⟨segment, hsegment, hn⟩ :=
    hparted.exists_mem htail hpos hle (not_delimiterAt_of_textAt h)
  obtain ⟨hstretch, hlines⟩ := hparted.isStretch htail segment hsegment
  have hblock : segment.isBlock = true := by
    obtain ⟨i, rfl⟩ := Nat.exists_eq_add_of_le hn.1
    rw [lineAt?_start_add hstretch hlines hn.2] at hline
    exact Segment.isBlock_iff.mpr ⟨line, List.mem_of_getElem? hline, htext⟩
  obtain ⟨number, hmem⟩ := exists_block_of_mem hsegment hblock
  exact ⟨_, hmem, _, _, fills_ofSegment hblock hstretch hlines number, hn⟩

/-- The lines of the blocks go up. -/
theorem pairwise_line_ofDocument (document : Text) :
    ((ofDocument document).map (·.line)).Pairwise (· < ·) := by
  rw [ofDocument, map_line_ofSegments, List.pairwise_map]
  refine ((parted_documentLines document).pairwise.filter _).imp_of_mem ?_
  intro segment later hsegment _ hle
  have hlt := Segment.firstLine_lt_past (List.mem_filter.mp hsegment).2
  have hge := later.start_le_firstLine
  omega

/-- Blocks of a document that share a line are the same. -/
theorem eq_of_holds (hblock : block ∈ ofDocument document) (hother : other ∈ ofDocument document)
    (h : Holds document block n) (h' : Holds document other n) : block = other := by
  have hnodup : ((ofDocument document).map (·.line)).Nodup :=
    (pairwise_line_ofDocument document).imp Nat.ne_of_lt
  exact List.inj_on_of_nodup_map hnodup hblock hother (h.line_eq h')

/-- Two lines of text lie in the same block just when no delimiter stands between them. -/
theorem exists_holds_both_iff (hm : TextAt document m) (hn : TextAt document n) :
    (∃ block ∈ ofDocument document, Holds document block m ∧ Holds document block n) ↔
      ¬ DelimiterBetween document m n := by
  constructor
  · rintro ⟨block, _, ⟨first, past, hfills, hmem⟩, first', past', hfills', hmem'⟩
    obtain ⟨rfl, rfl⟩ := hfills.unique hfills'
    exact hfills.not_delimiterBetween hmem hmem'
  · intro hbetween
    obtain ⟨block, hblock, first, past, hfills, hmem⟩ := exists_holds hm
    have hmem' := hfills.mem_of_not_delimiterBetween hmem hn hbetween
    exact ⟨block, hblock, ⟨first, past, hfills, hmem⟩, first, past, hfills, hmem'⟩

/-- **The blocks of a document are exactly its stretches with text in them.** They are numbered from
1 in the order of their lines; each one is a whole stretch, known by its first line of text, with no
delimiter among its lines; every line of text lies in exactly one block; and two lines of text lie
in the same block just when no delimiter stands between them. -/
theorem ofDocument_partition (document : Text) :
    let blocks := ofDocument document
    blocks.map (·.number) = List.range' 1 blocks.length ∧
    (blocks.map (·.line)).Pairwise (· < ·) ∧
    (∀ block ∈ blocks, (∃ first past, Fills document block first past) ∧
      ∀ line ∈ Text.lines block.text, isDelimiter line = false) ∧
    (∀ n, TextAt document n → ∃! block, block ∈ blocks ∧ Holds document block n) ∧
    ∀ m n, TextAt document m → TextAt document n →
      ((∃ block ∈ blocks, Holds document block m ∧ Holds document block n) ↔
        ¬ DelimiterBetween document m n) := by
  intro blocks
  refine ⟨map_number_ofSegments 1 _, pairwise_line_ofDocument document, ?_, ?_, ?_⟩
  · intro block hblock
    obtain ⟨first, past, hfills⟩ := exists_fills_of_mem hblock
    exact ⟨⟨first, past, hfills⟩, hfills.not_isDelimiter⟩
  · intro n hn
    obtain ⟨block, hblock, hholds⟩ := exists_holds hn
    exact ⟨block, ⟨hblock, hholds⟩, fun other hother => eq_of_holds hother.1 hblock hother.2 hholds⟩
  · intro m n hm hn
    exact exists_holds_both_iff hm hn

/-- A stretch without text counts in the lines of the blocks behind it, but not in their numbers. -/
example : ofDocument "\n---\n \r\n\nfirst\n --- \nsecond\n" =
    [⟨1, 5, " \n\nfirst"⟩, ⟨2, 7, "second\n"⟩] := by
  decide +kernel

end Block

end Agenda
