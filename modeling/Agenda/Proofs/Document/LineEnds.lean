import Agenda.Proofs.Document.NormalForm
import Agenda.Proofs.Document.Partition
import Agenda.Proofs.Document.Rules

/-!
# Line ends

Any of the line feeds of a text may be written with a return in front of it. A line is looked at
only after such returns have been dropped, so a delimiter, an empty line and the end of a value are
found behind a return as well: dropping the returns undoes every choice of them
(`Text.dropReturns_withReturnsFrom`). Main statement: a text without returns and the same text with
any of them written give the same blocks, the same two parts and the same readings, and none of the
returns comes into a block, an event or the words of a fault (`readDocument_withReturns`).

For the second half whatever is read is followed back to the characters of the text: a block to the
lines of its stretch, the two parts to pieces of the block, the value of a setting to one line of
the header, and what an event or a fault shows to the rule that it was judged by.
-/

namespace Agenda

/-! ### Returns in front of line feeds -/

namespace Text

variable {t : Text} {c : Char}

/-- A text with a return in front of those line feeds that are chosen; the first line feed has the
number `place`. -/
def withReturnsFrom (chosen : Nat → Bool) : Nat → Text → Text
  | _, [] => []
  | place, c :: rest =>
    if c = '\n' then
      (if chosen place then "\r\n" else "\n") ++ withReturnsFrom chosen (place + 1) rest
    else c :: withReturnsFrom chosen place rest

/-- A text with a return in front of those line feeds that are chosen, by their numbers from 0. -/
def withReturns (chosen : Nat → Bool) (t : Text) : Text := withReturnsFrom chosen 0 t

example : withReturns (· == 1) "a\n---\nb\n" = "a\n---\r\nb\n".toList := by decide

/-- **Dropping the returns undoes every choice of line ends.** -/
theorem dropReturns_withReturnsFrom (chosen : Nat → Bool) (place : Nat) (h : '\r' ∉ t) :
    dropReturns (withReturnsFrom chosen place t) = t := by
  induction t generalizing place with
  | nil => rfl
  | cons c rest ih =>
    obtain ⟨hc, hrest⟩ := not_or.mp (mt List.mem_cons.mpr h)
    by_cases hfeed : c = '\n'
    · subst hfeed
      rw [withReturnsFrom, if_pos rfl]
      cases chosen place with
      | true =>
        show '\n' :: dropReturns (withReturnsFrom chosen (place + 1) rest) = '\n' :: rest
        rw [ih (place + 1) hrest]
      | false =>
        show dropReturns ('\n' :: withReturnsFrom chosen (place + 1) rest) = '\n' :: rest
        rw [dropReturns_cons (.inl (by decide)), ih (place + 1) hrest]
    · rw [withReturnsFrom, if_neg hfeed, dropReturns_cons (.inl (Ne.symm hc)), ih place hrest]

/-- A text and the same text with returns are one text once the returns are dropped. -/
theorem dropReturns_withReturns (chosen : Nat → Bool) (h : '\r' ∉ t) :
    dropReturns (withReturns chosen t) = dropReturns t := by
  rw [withReturns, dropReturns_withReturnsFrom chosen 0 h, dropReturns_of_return_not_mem h]

/-! ### Characters of lines -/

/-- Putting lines together brings in nothing but line feeds. -/
theorem mem_unlines {ls : List Text} (h : c ∈ unlines ls) : c = '\n' ∨ ∃ line ∈ ls, c ∈ line := by
  induction ls with
  | nil => cases h
  | cons first rest ih =>
    cases rest with
    | nil =>
      rw [unlines_singleton] at h
      exact .inr ⟨first, List.mem_cons_self, h⟩
    | cons second others =>
      rw [unlines_cons_cons, List.mem_append, List.mem_cons] at h
      obtain hfirst | hfeed | hothers := h
      · exact .inr ⟨first, List.mem_cons_self, hfirst⟩
      · exact .inl hfeed
      · obtain hfeed | ⟨line, hline, hmem⟩ := ih hothers
        · exact .inl hfeed
        · exact .inr ⟨line, List.mem_cons_of_mem _ hline, hmem⟩

end Text

/-! ### Blocks and their two parts -/

/-- A block has no characters but line feeds and those of its document. -/
theorem Block.mem_of_mem_text {document : Text} {block : Block} {c : Char}
    (h : block ∈ ofDocument document) (hc : c ∈ block.text) :
    c = '\n' ∨ c ∈ Text.dropReturns document := by
  obtain ⟨first, past, hfills⟩ := exists_fills_of_mem h
  rw [hfills.text_eq] at hc
  obtain hfeed | ⟨line, hline, hmem⟩ := Text.mem_unlines hc
  · exact .inl hfeed
  · have hdocument : line ∈ documentLines document :=
      List.mem_of_mem_drop (List.mem_of_mem_take hline)
    exact .inr ((Text.mem_splitOn_spec hdocument).2 hmem)

/-- A header is a piece of the text. -/
theorem Sections.header_infix (t : Text) : (ofText t).header <:+: Text.dropReturns t := by
  have htrim := Text.trim_infix (Text.dropReturns t)
  simp only [ofText]
  cases hcut : cutAtParagraph? (Text.trim (Text.dropReturns t)) with
  | none => exact htrim
  | some parts =>
    have hfront := (prefix_of_cutAtParagraph? hcut).isInfix
    exact (Text.trim_infix parts.1).trans (hfront.trans htrim)

/-- A value that some lines say is a piece of one of them. -/
theorem Header.Says.exists_subset {lines : List Text} {key value : Text}
    (h : Says lines key (some value)) : ∃ line ∈ lines, value ⊆ line := by
  cases h with
  | @last _ _ line _ hlines hline _ =>
    obtain ⟨before, behind, rfl, -, -, rfl⟩ := hline
    refine ⟨before ++ ':' :: behind, by simp [hlines], ?_⟩
    intro c hc
    exact List.mem_append_right _ (List.mem_cons_of_mem _ ((Text.trim_infix behind).subset hc))

/-! ### Events and faults -/

namespace Event

variable {lines : List Text} {description : Option Text} {result : Except Fault Event}

/-- Whether no return is in what a block was read as: in the texts of an event or in the words of a
fault. -/
def IsReturnless : Except Fault Event → Prop
  | .ok event => '\r' ∉ event.title ∧ (∀ name ∈ event.speakers, '\r' ∉ name) ∧
      ∀ text ∈ event.description, '\r' ∉ text
  | .error cause => '\r' ∉ cause.message

/-- Words around a value bring in no return. -/
theorem return_not_mem_around {front value behind : Text} (hfront : '\r' ∉ front)
    (hvalue : '\r' ∉ value) (hbehind : '\r' ∉ behind) : '\r' ∉ front ++ value ++ behind := by
  rw [List.mem_append, List.mem_append]
  rintro ((hmem | hmem) | hmem)
  · exact hfront hmem
  · exact hvalue hmem
  · exact hbehind hmem

/-- Lines without returns are judged to be something without returns, by whichever rule it is. -/
theorem Judged.isReturnless [Languages] (h : Judged lines description result)
    (hlines : ∀ line ∈ lines, '\r' ∉ line) (hdescription : ∀ text ∈ description, '\r' ∉ text) :
    IsReturnless result := by
  have hvalue : ∀ {key value : Text}, Header.Says lines key (some value) → '\r' ∉ value := by
    intro key value hsays hmem
    obtain ⟨line, hline, hsubset⟩ := hsays.exists_subset
    exact hlines line hline (hsubset hmem)
  cases h with
  | @malformed before behind line hsplit _ _ =>
    have hline : '\r' ∉ line := hlines line (by simp [hsplit])
    exact return_not_mem_around (by decide) hline (by decide)
  | unknownKind _ htype _ => exact return_not_mem_around (by decide) (hvalue htype) (by decide)
  | noDate _ _ _ => exact return_not_mem_around (by decide) (by decide) (by decide)
  | badDate _ _ hdate _ =>
    have hfront : '\r' ∉ "datum `".toList ++ _ ++ "` ne odgovara ocekivanom formatu: `".toList :=
      return_not_mem_around (by decide) (hvalue hdate) (by decide)
    exact return_not_mem_around hfront (by decide) (by decide)
  | noDuration _ _ _ _ => exact return_not_mem_around (by decide) (by decide) (by decide)
  | notNumber _ _ _ hduration _ =>
    exact return_not_mem_around (by decide) (hvalue hduration) (by decide)
  | pastCalendar _ _ _ hduration _ _ =>
    exact return_not_mem_around (by decide) (hvalue hduration) (by decide)
  | accepted _ _ _ _ htitle _ hspeakers hkept =>
    refine ⟨?_, ?_, hkept ▸ hdescription⟩
    · obtain ⟨-, hdefault⟩ | ⟨-, hsays⟩ := htitle
      · rw [hdefault]
        decide
      · exact hvalue hsays
    · intro name hname
      obtain ⟨-, hnone⟩ | ⟨value, hsays, hnames⟩ := hspeakers
      · rw [hnone] at hname
        cases hname
      · rw [hnames] at hname
        exact fun hmem => hvalue hsays ((mem_speakersOf hname).2 hmem)

/-- **A text is read as something without returns**, if there are none but those in front of line
feeds. -/
theorem isReturnless_ofBlockText [Languages] {t : Text} (h : '\r' ∉ Text.dropReturns t) :
    IsReturnless (ofBlockText t) := by
  refine (judged_ofLines (Text.lines (Sections.ofText t).header) _).isReturnless ?_ ?_
  · intro line hline hmem
    exact h ((Sections.header_infix t).subset ((Text.mem_splitOn_spec hline).2 hmem))
  · intro text htext hmem
    exact h ((Sections.description_spec htext).2.2.subset hmem)

end Event

/-! ### Documents -/

/-- **Line ends do not matter.** However the line feeds of a text without returns are written, each
of them with a return in front of it or without one, the blocks are the same with their numbers,
lines and texts, and so are the header and the description, the event or fault of the text as a
block, and the whole reading under each policy. None of the returns is left in a block, in the texts
of its event or in the words of its fault. -/
theorem readDocument_withReturns [Languages] (t : Text) (h : '\r' ∉ t) (chosen : Nat → Bool) :
    Block.ofDocument (Text.withReturns chosen t) = Block.ofDocument t ∧
      Sections.ofText (Text.withReturns chosen t) = Sections.ofText t ∧
      Event.ofBlockText (Text.withReturns chosen t) = Event.ofBlockText t ∧
      (∀ word, readDocument (Text.withReturns chosen t) word = readDocument t word) ∧
      ∀ block ∈ Block.ofDocument (Text.withReturns chosen t),
        '\r' ∉ block.text ∧ Event.IsReturnless (Event.ofBlockText block.text) := by
  have hdrop := Text.dropReturns_withReturns chosen h
  have hblocks : Block.ofDocument (Text.withReturns chosen t) = Block.ofDocument t := by
    rw [Block.ofDocument, Block.documentLines, hdrop]
    rfl
  have hsections : Sections.ofText (Text.withReturns chosen t) = Sections.ofText t := by
    rw [Sections.ofText, hdrop]
    rfl
  refine ⟨hblocks, hsections, ?_, ?_, ?_⟩
  · rw [Event.ofBlockText, hsections]
    rfl
  · intro word
    rw [readDocument, Reader.ofDocument, hblocks]
    rfl
  · intro block hblock
    rw [hblocks] at hblock
    have hreturns : Text.dropReturns t = t := Text.dropReturns_of_return_not_mem h
    have hblock : '\r' ∉ block.text := by
      intro hmem
      obtain hfeed | hdocument := Block.mem_of_mem_text hblock hmem
      · exact absurd hfeed (by decide)
      · exact h (hreturns ▸ hdocument)
    refine ⟨hblock, Event.isReturnless_ofBlockText ?_⟩
    rwa [Text.dropReturns_of_return_not_mem hblock]

attribute [local instance] Languages.french

/-- A talk and a block that is none. -/
def talkAndNote : Text :=
  "date: 2024-11-06 09:00\nduration: 45\n\nTea\n---\nno colon\n"

/-- The same with a return at the ends of every other line, the empty line and the delimiter among
them. -/
def talkAndNoteMixed : Text :=
  "date: 2024-11-06 09:00\r\nduration: 45\n\r\nTea\n---\r\nno colon\n"

theorem readDocument_withReturns_mixed :
    '\r' ∉ talkAndNote ∧ Text.withReturns (· % 2 == 0) talkAndNote = talkAndNoteMixed ∧
      Block.ofDocument talkAndNoteMixed =
        [⟨1, 1, "date: 2024-11-06 09:00\nduration: 45\n\nTea"⟩, ⟨2, 6, "no colon\n"⟩] ∧
      (Sections.ofText talkAndNoteMixed).header = "date: 2024-11-06 09:00\nduration: 45".toList ∧
      readDocument talkAndNoteMixed "skip" = readDocument talkAndNote "skip" ∧
      readDocument talkAndNoteMixed "abort" = readDocument talkAndNote "abort" := by
  have hreturn : '\r' ∉ talkAndNote := by decide
  have hmixed : Text.withReturns (· % 2 == 0) talkAndNote = talkAndNoteMixed := by decide
  obtain ⟨hblocks, hsections, -, hreading, -⟩ :=
    readDocument_withReturns talkAndNote hreturn (· % 2 == 0)
  rw [hmixed] at hblocks hsections hreading
  refine ⟨hreturn, hmixed, ?_, ?_, hreading "skip", hreading "abort"⟩
  · rw [hblocks]
    decide
  · rw [hsections]
    decide

end Agenda
