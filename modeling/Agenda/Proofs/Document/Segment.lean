import Agenda.Document.Block
import Agenda.Proofs.Text.Lines

/-!
# Blocks of a joined document

Texts that can stand as blocks, joined with delimiter lines, are the blocks of the document that
they make up, each one text of one block and in the same order (`Block.map_text_ofDocument_join`).
The lines of such a document fall into the lines of its first text, a delimiter, and the lines of
what is left; a segment ends exactly there.
-/

namespace Agenda

/-! ### Delimiter lines -/

/-- **A delimiter line is three dashes with nothing but spaces and tabs around them.** -/
theorem isDelimiter_iff {line : Text} :
    isDelimiter line = true ↔ ∃ before after : Text,
      line = before ++ '-' :: '-' :: '-' :: after ∧
        before.all Text.isSpace = true ∧ after.all Text.isSpace = true := by
  constructor
  · intro h
    simp only [isDelimiter] at h
    split at h
    · rename_i after hafter
      refine ⟨line.takeWhile Text.isSpace, after, ?_, ?_, h⟩
      · rw [← hafter, List.takeWhile_append_dropWhile]
      · exact List.all_takeWhile
    · cases h
  · rintro ⟨before, after, rfl, hbefore, hafter⟩
    have hdash : Text.isSpace '-' = false := by decide
    have hdrop : (before ++ '-' :: '-' :: '-' :: after).dropWhile Text.isSpace =
        '-' :: '-' :: '-' :: after := by
      rw [List.dropWhile_append_of_pos (List.all_eq_true.mp hbefore), List.dropWhile_cons, hdash]
      rfl
    simp only [isDelimiter, hdrop]
    exact hafter

/-! ### Segments -/

namespace Segment

theorem ofLines_of_forall {ls : List Text} (h : ∀ line ∈ ls, isDelimiter line = false)
    (start : Nat) : ofLines start ls = [⟨start, ls⟩] := by
  induction ls generalizing start with
  | nil => rfl
  | cons line rest ih =>
    have hline : isDelimiter line = false := h line List.mem_cons_self
    have hrest := ih (fun l hl => h l (List.mem_cons_of_mem _ hl)) (start + 1)
    simp only [ofLines, hline, hrest, Bool.false_eq_true, if_false]

/-- **At a delimiter the segments fall apart**: those of the lines before it, and those of the lines
behind it. -/
theorem ofLines_append_delimiter {delimiter : Text} (hdelimiter : isDelimiter delimiter = true)
    (start : Nat) (first rest : List Text) :
    ofLines start (first ++ delimiter :: rest) =
      ofLines start first ++ ofLines (start + first.length + 1) rest := by
  induction first generalizing start with
  | nil =>
    show ofLines start (delimiter :: rest) = ⟨start, []⟩ :: ofLines (start + 1) rest
    rw [ofLines, if_pos hdelimiter]
  | cons line first ih =>
    have htail := ih (start + 1)
    rw [Nat.add_right_comm start 1, Nat.add_assoc start, ← List.length_cons] at htail
    rw [List.cons_append]
    cases hline : isDelimiter line with
    | true => rw [ofLines, if_pos hline, htail, ofLines, if_pos hline, List.cons_append]
    | false =>
      -- The line joins the first segment of what follows it, on both sides.
      obtain ⟨next, others, hnext⟩ :=
        List.exists_cons_of_ne_nil (ofLines_ne_nil (start + 1) first)
      rw [hnext, List.cons_append] at htail
      simp only [ofLines, hline, htail, hnext, Bool.false_eq_true, if_false, List.cons_append]

end Segment

/-! ### Blocks of segments -/

namespace Block

def ofSegment (number : Nat) (segment : Segment) : Block :=
  ⟨number, segment.firstLine, segment.text⟩

/-- The blocks are the segments with something in them, numbered one after the other. -/
theorem ofSegments_eq (number : Nat) (segments : List Segment) :
    ofSegments number segments =
      ((segments.filter Segment.isBlock).zipIdx number).map fun (segment, n) =>
        ofSegment n segment := by
  induction segments generalizing number with
  | nil => rfl
  | cons segment rest ih =>
    rw [ofSegments]
    cases hblock : segment.isBlock with
    | true =>
      rw [if_pos rfl, ih, List.filter_cons_of_pos hblock]
      rfl
    | false => rw [if_neg Bool.false_ne_true, ih, List.filter_cons_of_neg (by simp [hblock])]

theorem length_ofSegments (number : Nat) (segments : List Segment) :
    (ofSegments number segments).length = (segments.filter Segment.isBlock).length := by
  rw [ofSegments_eq, List.length_map, List.length_zipIdx]

theorem map_number_ofSegments (number : Nat) (segments : List Segment) :
    (ofSegments number segments).map (·.number) =
      List.range' number (ofSegments number segments).length := by
  rw [length_ofSegments, ofSegments_eq, List.map_map, ← List.zipIdx_map_snd]
  rfl

theorem map_line_ofSegments (number : Nat) (segments : List Segment) :
    (ofSegments number segments).map (·.line) =
      (segments.filter Segment.isBlock).map Segment.firstLine := by
  rw [ofSegments_eq, List.map_map]
  conv_rhs => rw [← List.zipIdx_map_fst number (segments.filter Segment.isBlock), List.map_map]
  rfl

theorem exists_segment_of_mem_ofSegments {number : Nat} {segments : List Segment} {block : Block}
    (h : block ∈ ofSegments number segments) :
    ∃ segment ∈ segments, segment.isBlock = true ∧ block = ofSegment block.number segment := by
  rw [ofSegments_eq] at h
  obtain ⟨⟨segment, n⟩, hmem, rfl⟩ := List.mem_map.mp h
  obtain ⟨hsegment, hblock⟩ := List.mem_filter.mp (List.fst_mem_of_mem_zipIdx hmem)
  exact ⟨segment, hsegment, hblock, rfl⟩

theorem exists_block_of_mem {number : Nat} {segments : List Segment} {segment : Segment}
    (h : segment ∈ segments) (hblock : segment.isBlock = true) :
    ∃ n, ofSegment n segment ∈ ofSegments number segments := by
  have hmem : segment ∈ ((segments.filter Segment.isBlock).zipIdx number).map Prod.fst := by
    rw [List.zipIdx_map_fst]
    exact List.mem_filter.mpr ⟨h, hblock⟩
  obtain ⟨⟨other, n⟩, hpair, rfl⟩ := List.mem_map.mp hmem
  rw [ofSegments_eq]
  exact ⟨n, List.mem_map.mpr ⟨_, hpair, rfl⟩⟩

end Block

/-! ### Documents -/

namespace Block

/-- What a text needs to be the whole text of one block of a document. -/
structure IsBody (t : Text) : Prop where
  /-- There is something in it. -/
  not_blank : Text.allBlank t = false
  no_delimiter : ∀ line ∈ Text.lines t, isDelimiter line = false
  no_return_pair : Text.dropReturns t = t
  /-- No pair of a return and a line feed arises behind it. -/
  last_ne_return : t.getLast? ≠ some '\r'

variable {body : Text}

theorem IsBody.isBlock (h : IsBody body) (start : Nat) :
    Segment.isBlock ⟨start, Text.lines body⟩ = true := by
  rw [Segment.isBlock, Segment.text, Text.unlines_lines, h.not_blank]
  rfl

/-- The lines of a document fall apart at a line feed that no return stands before. -/
theorem documentLines_append_newline {before : Text} (h : before.getLast? ≠ some '\r')
    (after : Text) :
    documentLines (before ++ '\n' :: after) = documentLines before ++ documentLines after := by
  simp only [documentLines]
  rw [Text.dropReturns_append (.inl h), Text.dropReturns_cons (.inl (by decide)),
    Text.lines_append_newline]

/-- The line between two blocks. -/
theorem isDelimiter_dashes : isDelimiter ['-', '-', '-'] = true := by decide

/-- Between the lines of two documents put together stands a delimiter. -/
theorem documentLines_append_delimiter {before : Text} (h : before.getLast? ≠ some '\r')
    (after : Text) :
    documentLines (before ++ "\n---\n" ++ after) =
      documentLines before ++ ['-', '-', '-'] :: documentLines after := by
  have hsplit : before ++ "\n---\n".toList ++ after =
      before ++ '\n' :: (['-', '-', '-'] ++ '\n' :: after) := by
    rw [List.append_assoc]
    rfl
  have hdashes : documentLines ['-', '-', '-'] = [['-', '-', '-']] := by decide
  rw [hsplit, documentLines_append_newline h, documentLines_append_newline (by decide), hdashes]
  rfl

theorem documentLines_join (h : IsBody body) (next : Text) (rest : List Text) :
    documentLines (Text.join "\n---\n" (body :: next :: rest)) =
      Text.lines body ++ ['-', '-', '-'] :: documentLines (Text.join "\n---\n" (next :: rest)) := by
  rw [Text.join, List.intercalate_cons_cons, documentLines_append_delimiter h.last_ne_return,
    documentLines, h.no_return_pair, Text.join]

theorem map_text_ofSegments_join {bodies : List Text} (h : ∀ body ∈ bodies, IsBody body)
    (number start : Nat) :
    (ofSegments number (Segment.ofLines start
      (documentLines (Text.join "\n---\n" bodies)))).map (·.text) = bodies := by
  induction bodies generalizing number start with
  | nil => rfl
  | cons body rest ih =>
    have hbody : IsBody body := h body List.mem_cons_self
    cases rest with
    | nil =>
      have hlines : documentLines (Text.join "\n---\n" [body]) = Text.lines body := by
        rw [Text.join, List.intercalate_singleton, documentLines, hbody.no_return_pair]
      rw [hlines, Segment.ofLines_of_forall hbody.no_delimiter, ofSegments,
        if_pos (hbody.isBlock start), ofSegments, List.map_cons, List.map_nil, Segment.text,
        Text.unlines_lines]
    | cons next rest =>
      have hrest := ih (fun b hb => h b (List.mem_cons_of_mem _ hb))
      rw [documentLines_join hbody,
        Segment.ofLines_append_delimiter isDelimiter_dashes,
        Segment.ofLines_of_forall hbody.no_delimiter, List.singleton_append, ofSegments,
        if_pos (hbody.isBlock start), List.map_cons, hrest, Segment.text, Text.unlines_lines]

/-- **The blocks of a joined document are the texts that it was joined from.** -/
theorem map_text_ofDocument_join {bodies : List Text} (h : ∀ body ∈ bodies, IsBody body) :
    (ofDocument (Text.join "\n---\n" bodies)).map (·.text) = bodies :=
  map_text_ofSegments_join h 1 1

end Block

end Agenda
