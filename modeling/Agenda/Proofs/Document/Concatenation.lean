import Agenda.Proofs.Document.Policy
import Agenda.Proofs.Language.Code
import Agenda.Proofs.Document.Segment

/-!
# Documents put together

Two documents with a delimiter line between them are read one after the other: the blocks are those
of the first one and those of the second one, further on in number and line (`Block.shift`), and so
are the rejections (`Rejection.shift`). Nothing else of a block is changed, so that the events are
the same. Main statement: reading the whole is reading both parts, under either policy
(`readDocument_concatenated`).
-/

namespace Agenda

/-! ### Segments and blocks further on -/

namespace Segment

def shift (lines : Nat) (segment : Segment) : Segment :=
  { segment with start := segment.start + lines }

theorem ofLines_add (start lines : Nat) (ls : List Text) :
    ofLines (start + lines) ls = (ofLines start ls).map (shift lines) := by
  induction ls generalizing start with
  | nil => rfl
  | cons line rest ih =>
    have hrest := ih (start + 1)
    rw [Nat.add_right_comm] at hrest
    simp only [ofLines, hrest]
    cases hline : isDelimiter line with
    | true => rfl
    | false => cases ofLines (start + 1) rest <;> rfl

theorem firstLine_shift (lines : Nat) (segment : Segment) :
    (segment.shift lines).firstLine = segment.firstLine + lines :=
  Nat.add_right_comm ..

end Segment

namespace Block

def shift (blocks lines : Nat) (block : Block) : Block :=
  { block with number := block.number + blocks, line := block.line + lines }

theorem ofSegments_append (number : Nat) (first second : List Segment) :
    ofSegments number (first ++ second) =
      ofSegments number first ++ ofSegments (number + (ofSegments number first).length) second := by
  induction first generalizing number with
  | nil => rfl
  | cons segment rest ih =>
    rw [List.cons_append, ofSegments, ofSegments]
    cases segment.isBlock with
    | true =>
      rw [if_pos rfl, if_pos rfl, ih, List.length_cons, List.cons_append, Nat.add_assoc,
        Nat.add_comm 1]
    | false => rw [if_neg Bool.false_ne_true, if_neg Bool.false_ne_true, ih]

theorem ofSegments_add (number blocks lines : Nat) (segments : List Segment) :
    ofSegments (number + blocks) (segments.map (Segment.shift lines)) =
      (ofSegments number segments).map (shift blocks lines) := by
  induction segments generalizing number with
  | nil => rfl
  | cons segment rest ih =>
    have hblock : (segment.shift lines).isBlock = segment.isBlock := rfl
    have hrest := ih (number + 1)
    rw [Nat.add_right_comm] at hrest
    rw [List.map_cons, ofSegments, ofSegments, hblock, Segment.firstLine_shift, hrest, ih]
    cases segment.isBlock with
    | true => rfl
    | false => rfl

/-- **The blocks of two documents put together** are those of the first one and those of the second
one, the latter further on by the blocks and the lines of the first one and by the line between. -/
theorem ofDocument_append {first : Text} (h : first.getLast? ≠ some '\r') (second : Text) :
    ofDocument (first ++ "\n---\n" ++ second) =
      ofDocument first ++ (ofDocument second).map
        (shift (ofDocument first).length ((documentLines first).length + 1)) := by
  rw [ofDocument, documentLines_append_delimiter h,
    Segment.ofLines_append_delimiter isDelimiter_dashes, Nat.add_assoc, Segment.ofLines_add,
    ofSegments_append, ofSegments_add]
  rfl

end Block

/-! ### Events and rejections further on -/

/-- A rejection some blocks and some lines further on, with the same cause. -/
def Rejection.shift (blocks lines : Nat) (rejection : Rejection) : Rejection :=
  { rejection with block := rejection.block + blocks, line := rejection.line + lines }

/-- A fault of a block some blocks and some lines further on; any other one has no place. -/
def Fault.shift (blocks lines : Nat) : Fault → Fault
  | .inBlock cause block line => .inBlock cause (block + blocks) (line + lines)
  | other => other

/-- What stops a reading some blocks and some lines further on. -/
def Trouble.shift (blocks lines : Nat) : Trouble → Trouble
  | .fault cause => .fault (cause.shift blocks lines)
  | other => other

namespace Block

variable [Languages]

theorem events_append (first second : List Block) :
    events (first ++ second) = events first ++ events second :=
  List.filterMap_append

theorem rejections_append (first second : List Block) :
    rejections (first ++ second) = rejections first ++ rejections second :=
  List.filterMap_append

/-- A block is read by its text alone. -/
theorem event_shift (blocks lines : Nat) (block : Block) :
    (block.shift blocks lines).event = block.event.mapError (Rejection.shift blocks lines) := by
  rw [event, event, shift]
  cases Event.ofBlockText block.text with
  | ok event => rfl
  | error cause => rfl

theorem events_map_shift (blocks lines : Nat) (all : List Block) :
    events (all.map (shift blocks lines)) = events all := by
  rw [events, events, List.filterMap_map]
  congr 1
  funext block
  rw [Function.comp_apply, event_shift]
  cases block.event with
  | ok event => rfl
  | error rejection => rfl

theorem rejections_map_shift (blocks lines : Nat) (all : List Block) :
    rejections (all.map (shift blocks lines)) =
      (rejections all).map (Rejection.shift blocks lines) := by
  rw [rejections, rejections, List.filterMap_map, List.map_filterMap]
  congr 1
  funext block
  rw [Function.comp_apply, event_shift]
  cases block.event with
  | ok event => rfl
  | error rejection => rfl

end Block

/-! ### Readings -/

section Readings

variable [Languages]

variable {first : Text} (h : first.getLast? ≠ some '\r') (second : Text)
include h

theorem events_ofDocument_append :
    Block.events (Block.ofDocument (first ++ "\n---\n" ++ second)) =
      Block.events (Block.ofDocument first) ++ Block.events (Block.ofDocument second) := by
  rw [Block.ofDocument_append h, Block.events_append, Block.events_map_shift]

theorem rejections_ofDocument_append :
    Block.rejections (Block.ofDocument (first ++ "\n---\n" ++ second)) =
      Block.rejections (Block.ofDocument first) ++
        (Block.rejections (Block.ofDocument second)).map
          (Rejection.shift (Block.ofDocument first).length
            ((Block.documentLines first).length + 1)) := by
  rw [Block.ofDocument_append h, Block.rejections_append, Block.rejections_map_shift]

/-- **Reading two documents put together is reading one after the other.** No block has another text
than in its own document. Under `skip` the events and the rejections of both are put together, under
`abort` the first reading that is stopped stops the whole. What is told of the second document is
further on by the blocks and the lines of the first one and by the line between. -/
theorem readDocument_concatenated :
    let blocks := (Block.ofDocument first).length
    let lines := (Block.documentLines first).length + 1
    let skipped := fun document => readDocument document Policy.skip.name
    let aborted := fun document => readDocument document Policy.abort.name
    Block.ofDocument (first ++ "\n---\n" ++ second) =
      Block.ofDocument first ++ (Block.ofDocument second).map (Block.shift blocks lines) ∧
    ((skipped first).result = .ok (Block.events (Block.ofDocument first)) ∧
      (skipped second).result = .ok (Block.events (Block.ofDocument second)) ∧
      (skipped (first ++ "\n---\n" ++ second)).result =
        .ok (Block.events (Block.ofDocument first) ++ Block.events (Block.ofDocument second))) ∧
    (skipped (first ++ "\n---\n" ++ second)).reader.rejections =
      (skipped first).reader.rejections ++
        (skipped second).reader.rejections.map (Rejection.shift blocks lines) ∧
    (aborted (first ++ "\n---\n" ++ second)).result =
      (do
        let events ← (aborted first).result
        let events' ← (aborted second).result.mapError (Trouble.shift blocks lines)
        return events ++ events') := by
  intro blocks lines skipped aborted
  have hevents := events_ofDocument_append h second
  have hrejections := rejections_ofDocument_append h second
  refine ⟨Block.ofDocument_append h second, ⟨?_, ?_, ?_⟩, ?_, ?_⟩
  · exact result_readDocument_skip first
  · exact result_readDocument_skip second
  · rw [result_readDocument_skip, hevents]
  · rw [rejections_readDocument_skip, rejections_readDocument_skip, rejections_readDocument_skip,
      hrejections]
  · simp only [aborted, result_readDocument_abort, hevents, hrejections]
    -- The first one of all rejections is the first one of the first document that has any.
    cases Block.rejections (Block.ofDocument first) with
    | cons rejection rest => rfl
    | nil =>
      cases Block.rejections (Block.ofDocument second) with
      | nil => rfl
      | cons rejection rest => rfl

end Readings

section

attribute [local instance] Languages.french

/-- A document of one event that begins and ends with a delimiter. -/
def teaProgram : Text :=
  "---\n\ntype: fun\ntitle: Tea\ndate: 2024-11-06 16:00\nduration: 15\r\n--- \n"

/-- A document with a faulty block behind an empty segment, and an event behind it. -/
def tornProgram : Text :=
  "\n---\nno colon\r\n---\ntitle: Opening\ndate: 2024-11-07 09:00\nduration: 45"

theorem readDocument_concatenated_torn :
    teaProgram.getLast? ≠ some '\r' ∧
      (readDocument (teaProgram ++ "\n---\n" ++ tornProgram) Policy.skip.name).reader.rejections =
        [⟨2, 12, .malformedField "no colon"⟩] ∧
      (readDocument (teaProgram ++ "\n---\n" ++ tornProgram) Policy.abort.name).result =
        .error (.fault (.inBlock (.malformedField "no colon") 2 12)) := by
  have hend : teaProgram.getLast? ≠ some '\r' := by decide
  obtain ⟨_, _, hrejections, hresult⟩ := readDocument_concatenated hend tornProgram
  refine ⟨hend, hrejections.trans ?_, hresult.trans ?_⟩
  · decide +kernel
  · decide +kernel

end

end Agenda
