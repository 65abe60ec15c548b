import Agenda.Document.Reader

/-!
# The two policies

Reading under `abort` and reading under `skip` walk the same blocks; one stops at the first
rejection, the other one gathers them all. Main statement: after any earlier readings, `skip` gives
the events and the rejections of the blocks, `abort` gives those events or the first of those
rejections, and any other word changes nothing (`read_after_earlier`).

The step behind it is that a block can only go wrong by a fault of reading
(`isIn_reading_of_ofBlockText`), so that no fault slips past the place where rejections are made.
-/

namespace Agenda

/-! ### The faults of a block -/

theorem Header.isIn_reading_of_ofLines {lines : List Text} {cause : Fault}
    (h : ofLines lines = .error cause) : cause.isIn .reading = true := by
  induction lines with
  | nil => cases h
  | cons line rest ih =>
    simp only [ofLines] at h
    split at h
    · exact ih h
    · split at h
      · cases h
        rfl
      · cases hrest : ofLines rest with
        | ok header => rw [hrest] at h; cases h
        | error fault =>
          rw [hrest] at h
          cases h
          exact ih hrest

namespace Event

theorem isIn_reading_of_readKind {header : Header} {cause : Fault}
    (h : readKind header = .error cause) : cause.isIn .reading = true := by
  simp only [readKind] at h
  split at h
  · cases h
  · split at h <;> cases h
    rfl

theorem isIn_reading_of_readStart {header : Header} {cause : Fault}
    (h : readStart header = .error cause) : cause.isIn .reading = true := by
  simp only [readStart] at h
  split at h
  · cases h
    rfl
  · split at h <;> cases h
    rfl

variable [Languages]

theorem isIn_reading_of_ofHeader {header : Header} {description : Option Text} {cause : Fault}
    (h : ofHeader header description = .error cause) : cause.isIn .reading = true := by
  cases hkind : readKind header with
  | error fault =>
    simp only [ofHeader, hkind] at h
    cases h
    exact isIn_reading_of_readKind hkind
  | ok kind =>
    cases hstart : readStart header with
    | error fault =>
      simp only [ofHeader, hkind, hstart] at h
      cases h
      exact isIn_reading_of_readStart hstart
    | ok start =>
      -- What is left are the three checks of the duration, each with its own fault.
      simp only [ofHeader, hkind, hstart, bind, Except.bind] at h
      split at h
      · cases h
        rfl
      · split at h
        · cases h
          rfl
        · split at h <;> cases h
          rfl

/-- **A block goes wrong only by a fault of reading.** -/
theorem isIn_reading_of_ofBlockText {t : Text} {cause : Fault}
    (h : ofBlockText t = .error cause) : cause.isIn .reading = true := by
  cases hheader : Header.ofText (Sections.ofText t).header with
  | error fault =>
    simp only [ofBlockText, hheader] at h
    cases h
    exact Header.isIn_reading_of_ofLines hheader
  | ok header =>
    simp only [ofBlockText, hheader] at h
    exact isIn_reading_of_ofHeader h

end Event

/-! ### Events and rejections of a list of blocks, block by block -/

namespace Block

variable [Languages]

variable {block : Block} {event : Event} {cause : Fault}

theorem event_of_ok (h : Event.ofBlockText block.text = .ok event) : block.event = .ok event := by
  rw [Block.event, h]
  rfl

theorem event_of_error (h : Event.ofBlockText block.text = .error cause) :
    block.event = .error ⟨block.number, block.line, cause⟩ := by
  rw [Block.event, h]
  rfl

theorem events_cons_of_ok (h : Event.ofBlockText block.text = .ok event) (rest : List Block) :
    events (block :: rest) = event :: events rest := by
  simp only [events, List.filterMap_cons, event_of_ok h, Except.toOption]

theorem rejections_cons_of_ok (h : Event.ofBlockText block.text = .ok event) (rest : List Block) :
    rejections (block :: rest) = rejections rest := by
  simp only [rejections, List.filterMap_cons, event_of_ok h]

theorem events_cons_of_error (h : Event.ofBlockText block.text = .error cause)
    (rest : List Block) : events (block :: rest) = events rest := by
  simp only [events, List.filterMap_cons, event_of_error h, Except.toOption]

theorem rejections_cons_of_error (h : Event.ofBlockText block.text = .error cause)
    (rest : List Block) :
    rejections (block :: rest) = ⟨block.number, block.line, cause⟩ :: rejections rest := by
  simp only [rejections, List.filterMap_cons, event_of_error h]

end Block

/-! ### The walk over the blocks -/

namespace Reader

variable [Languages]

/-- The walk under `skip` adds what the blocks that are left give to what it has already. -/
theorem readBlocks_skip (reader : Reader) (events : List Event) (notes : List Note)
    (left : List Block) :
    readBlocks .skip reader events notes left =
      ⟨.ok (events ++ Block.events left),
        { reader with rejections := reader.rejections ++ Block.rejections left },
        notes ++ (Block.rejections left).map Rejection.warning ++
          [reader.countNote (events ++ Block.events left)]⟩ := by
  induction left generalizing reader events notes with
  | nil =>
    simp only [readBlocks, Block.events, Block.rejections, List.filterMap_nil, List.append_nil,
      List.map_nil]
  | cons block rest ih =>
    cases hblock : Event.ofBlockText block.text with
    | ok event =>
      rw [Block.events_cons_of_ok hblock, Block.rejections_cons_of_ok hblock]
      simp only [readBlocks, hblock]
      rw [ih, List.append_assoc, List.singleton_append]
    | error cause =>
      have hcaught := Event.isIn_reading_of_ofBlockText hblock
      rw [Block.events_cons_of_error hblock, Block.rejections_cons_of_error hblock]
      simp only [readBlocks, hblock, hcaught, if_true]
      rw [ih]
      simp only [countNote, List.append_assoc, List.map_cons, List.cons_append, List.nil_append]

/-- The walk under `abort` goes on as long as nothing is rejected. -/
theorem readBlocks_abort (reader : Reader) (events : List Event) (notes : List Note)
    (left : List Block) :
    readBlocks .abort reader events notes left =
      match Block.rejections left with
      | [] => ⟨.ok (events ++ Block.events left), reader,
          notes ++ [reader.countNote (events ++ Block.events left)]⟩
      | first :: _ => ⟨.error (.fault first.fault), reader, notes⟩ := by
  induction left generalizing events with
  | nil =>
    simp only [readBlocks, Block.events, Block.rejections, List.filterMap_nil, List.append_nil]
  | cons block rest ih =>
    cases hblock : Event.ofBlockText block.text with
    | ok event =>
      rw [Block.events_cons_of_ok hblock, Block.rejections_cons_of_ok hblock]
      simp only [readBlocks, hblock]
      rw [ih, List.append_assoc, List.singleton_append]
    | error cause =>
      have hcaught := Event.isIn_reading_of_ofBlockText hblock
      rw [Block.rejections_cons_of_error hblock]
      simp only [readBlocks, hblock, hcaught, if_true]

theorem read_skip (reader : Reader) :
    reader.read Policy.skip.name =
      ⟨.ok (Block.events reader.blocks),
        { reader with rejections := Block.rejections reader.blocks },
        (Block.rejections reader.blocks).map Rejection.warning ++
          [reader.countNote (Block.events reader.blocks)]⟩ := by
  simp only [read, Policy.ofName?_name, readUnder, readBlocks_skip, List.nil_append, countNote]

theorem read_abort (reader : Reader) :
    reader.read Policy.abort.name =
      match Block.rejections reader.blocks with
      | [] => ⟨.ok (Block.events reader.blocks), { reader with rejections := [] },
          [reader.countNote (Block.events reader.blocks)]⟩
      | first :: _ => ⟨.error (.fault first.fault), { reader with rejections := [] }, []⟩ := by
  simp only [read, Policy.ofName?_name, readUnder, readBlocks_abort, List.nil_append, countNote]

theorem read_other (reader : Reader) {word : Text} (hskip : word ≠ Policy.skip.name)
    (habort : word ≠ Policy.abort.name) :
    reader.read word = ⟨.error (.unknownPolicy word), reader, []⟩ := by
  have hname : Policy.ofName? word = none := by
    simp [Policy.ofName?, hskip.symm, habort.symm]
  rw [read, hname]

/-! ### Readings one after the other -/

def afterReadings (reader : Reader) (words : List Text) : Reader :=
  words.foldl (fun reader word => (reader.read word).reader) reader

theorem blocks_afterReadings (reader : Reader) (words : List Text) :
    (reader.afterReadings words).blocks = reader.blocks := by
  induction words generalizing reader with
  | nil => rfl
  | cons word rest ih =>
    show ((reader.read word).reader.afterReadings rest).blocks = reader.blocks
    rw [ih, blocks_read]

/-- What a reading gives depends on the blocks alone, not on what the reader remembers. -/
theorem result_read_congr {reader reader' : Reader} (h : reader.blocks = reader'.blocks)
    (word : Text) :
    (reader.read word).result = (reader'.read word).result ∧
      (reader.read word).notes = (reader'.read word).notes := by
  by_cases hskip : word = Policy.skip.name
  · subst hskip
    simp only [read_skip, countNote, h, and_self]
  · by_cases habort : word = Policy.abort.name
    · subst habort
      simp only [read_abort, countNote, h]
      cases Block.rejections reader'.blocks <;> simp only [and_self]
    · simp only [read_other _ hskip habort, and_self]

omit [Languages] in
theorem filter_warning_notes (rejections : List Rejection) (reader : Reader)
    (events : List Event) :
    (rejections.map Rejection.warning ++ [reader.countNote events]).filter
      (·.level == .warning) = rejections.map Rejection.warning := by
  have hwarnings : (rejections.map Rejection.warning).filter (·.level == .warning) =
      rejections.map Rejection.warning := by
    rw [List.filter_eq_self]
    intro note hnote
    obtain ⟨rejection, _, rfl⟩ := List.mem_map.mp hnote
    rfl
  rw [List.filter_append, hwarnings]
  simp [countNote]

/-- **The two policies agree, after any earlier readings.** -/
theorem read_after_earlier (document : Text) (earlier : List Text) (word : Text) :
    let blocks := Block.ofDocument document
    let reader := (ofDocument document).afterReadings earlier
    let skipped := reader.read Policy.skip.name
    let aborted := reader.read Policy.abort.name
    (skipped.result = .ok (Block.events blocks) ∧
      skipped.reader.rejections = Block.rejections blocks ∧
      skipped.notes.filter (·.level == .warning) =
        (Block.rejections blocks).map Rejection.warning ∧
      (Block.events blocks).length + (Block.rejections blocks).length = blocks.length) ∧
    (aborted.result =
      (match skipped.reader.rejections with
        | [] => skipped.result
        | first :: _ => .error (.fault first.fault)) ∧
      aborted.reader.rejections = []) ∧
    (word ≠ Policy.skip.name → word ≠ Policy.abort.name →
      (reader.read word).result = .error (.unknownPolicy word) ∧
        (reader.read word).reader = reader) ∧
    (reader.read word).result = ((ofDocument document).read word).result ∧
      (reader.read word).notes = ((ofDocument document).read word).notes := by
  intro blocks reader skipped aborted
  have hblocks : reader.blocks = blocks := blocks_afterReadings _ earlier
  refine ⟨⟨?_, ?_, ?_, ?_⟩, ⟨?_, ?_⟩, ?_, ?_⟩
  · simp only [skipped, read_skip, hblocks]
  · simp only [skipped, read_skip, hblocks]
  · simp only [skipped, read_skip, hblocks]
    exact filter_warning_notes ..
  · exact Block.length_events_add_length_rejections blocks
  · simp only [aborted, skipped, read_skip, read_abort]
    cases Block.rejections reader.blocks <;> rfl
  · simp only [aborted, read_abort]
    cases Block.rejections reader.blocks <;> rfl
  · intro hskip habort
    rw [read_other reader hskip habort]
    exact ⟨rfl, rfl⟩
  · exact result_read_congr hblocks word

end Reader

/-! ### Documents under each policy -/

variable [Languages]

theorem result_readDocument_skip (document : Text) :
    (readDocument document Policy.skip.name).result =
      .ok (Block.events (Block.ofDocument document)) := by
  rw [readDocument, Reader.read_skip]
  rfl

theorem rejections_readDocument_skip (document : Text) :
    (readDocument document Policy.skip.name).reader.rejections =
      Block.rejections (Block.ofDocument document) := by
  rw [readDocument, Reader.read_skip]
  rfl

theorem result_readDocument_abort (document : Text) :
    (readDocument document Policy.abort.name).result =
      match Block.rejections (Block.ofDocument document) with
      | [] => .ok (Block.events (Block.ofDocument document))
      | first :: _ => .error (.fault first.fault) := by
  have hblocks : (Reader.ofDocument document).blocks = Block.ofDocument document := rfl
  rw [readDocument, Reader.read_abort, hblocks]
  cases Block.rejections (Block.ofDocument document) <;> rfl

end Agenda
