import Agenda.Proofs.Document.BlockText
import Agenda.Proofs.Document.Policy
import Agenda.Proofs.Document.Segment

/-!
# Written documents are read back

A document written from events is read as these events, under either policy and with nothing left
out (`readDocument_writeDocument`). What the texts of an event need for that is `Event.IsWritable`:
besides a normal form, no line of a description may be a delimiter, since the document falls into
the written blocks first.
-/

namespace Agenda

namespace Event

variable [languages : Languages]

/-- What the texts of an event need to stand in a document. -/
structure IsWritable (event : Event) : Prop where
  title_ne_nil : event.title ≠ []
  title_trim : Text.trim event.title = event.title
  title_line : '\n' ∉ event.title
  duration_le : event.duration ≤ maxDuration
  language_held : ∀ language ∈ event.language, language.IsHeld
  speakers_names : ∀ name ∈ event.speakers, IsName name ∧ '\n' ∉ name
  description_ne_nil : ∀ description ∈ event.description, description ≠ []
  description_trim : ∀ description ∈ event.description, Text.trim description = description
  description_returns : ∀ description ∈ event.description, ¬ ['\r', '\n'] <:+: description
  description_lines : ∀ description ∈ event.description,
    ∀ line ∈ Text.lines description, isDelimiter line = false

variable {event : Event}

theorem IsWritable.isNormal (h : event.IsWritable) (hlaw : languages.IsLawful) :
    event.IsNormal where
  title_ne_nil := h.title_ne_nil
  title_trim := h.title_trim
  title_line := h.title_line
  duration_le := h.duration_le
  language_known := fun language hmem => (h.language_held language hmem).isKnown hlaw
  speakers_names := h.speakers_names
  description_ne_nil := h.description_ne_nil
  description_trim := h.description_trim
  description_returns := h.description_returns

variable (hlaw : languages.IsLawful) (h : event.IsWritable)
include hlaw h

theorem isDelimiter_of_mem_lines_headerText {line : Text}
    (hline : line ∈ Text.lines event.headerText) : isDelimiter line = false := by
  rw [lines_headerText (h.isNormal hlaw)] at hline
  obtain ⟨setting, _, rfl⟩ := List.mem_map.mp hline
  exact Header.isDelimiter_lineOf setting

theorem isBody_blockText : Block.IsBody event.blockText where
  not_blank := by
    apply Text.allBlank_of_trim_eq_self (trim_blockText (h.isNormal hlaw))
    intro hnil
    have hhead := head?_blockText event
    rw [hnil] at hhead
    cases hhead
  no_delimiter := by
    intro line hline
    cases hdescription : event.description with
    | none =>
      rw [blockText_of_none hdescription] at hline
      exact isDelimiter_of_mem_lines_headerText hlaw h hline
    | some description =>
      -- The empty line in between is a line of its own.
      have htext : event.blockText = event.headerText ++ '\n' :: ([] ++ '\n' :: description) := by
        rw [blockText_of_some hdescription, List.append_assoc]
        rfl
      rw [htext, Text.lines_append_newline, Text.lines_append_newline, List.mem_append,
        List.mem_append] at hline
      rcases hline with hheader | hempty | hrest
      · exact isDelimiter_of_mem_lines_headerText hlaw h hheader
      · rw [List.mem_singleton.mp hempty]
        decide
      · exact h.description_lines description hdescription line hrest
  no_return_pair := dropReturns_blockText (h.isNormal hlaw)
  last_ne_return := by
    intro hlast
    have hblank := (Text.trim_eq_self_iff.mp (trim_blockText (h.isNormal hlaw))).2 _ hlast
    exact absurd hblank (by decide)

end Event

/-! ### Reading a document -/

section

variable [languages : Languages] (hlaw : languages.IsLawful)
include hlaw

/-- Blocks whose texts were written from events give these events and no rejections. -/
theorem Block.events_of_map_text {blocks : List Block} {events : List Event}
    (htexts : blocks.map (·.text) = events.map Event.blockText)
    (h : ∀ event ∈ events, event.IsWritable) :
    Block.events blocks = events ∧ Block.rejections blocks = [] := by
  induction events generalizing blocks with
  | nil =>
    rw [List.map_nil, List.map_eq_nil_iff] at htexts
    rw [htexts]
    exact ⟨rfl, rfl⟩
  | cons event rest ih =>
    obtain ⟨block, others, rfl, htext, hothers⟩ := List.map_eq_cons_iff.mp htexts
    have hblock : Event.ofBlockText block.text = .ok event := by
      rw [htext]
      exact Event.ofBlockText_blockText ((h event List.mem_cons_self).isNormal hlaw)
    obtain ⟨hevents, hrejections⟩ :=
      ih hothers fun other hother => h other (List.mem_cons_of_mem _ hother)
    rw [Block.events_cons_of_ok hblock, Block.rejections_cons_of_ok hblock, hevents, hrejections]
    exact ⟨rfl, rfl⟩

/-- **A written document is read back**, under either policy, with nothing left out, and whatever
table of languages there is, as long as the codes in it are those that it is asked for. -/
theorem readDocument_writeDocument (events : List Event)
    (h : ∀ event ∈ events, event.IsWritable) (policy : Policy) :
    (readDocument (writeDocument events) policy.name).result = .ok events ∧
      (readDocument (writeDocument events) policy.name).reader.rejections = [] := by
  have hbodies : ∀ body ∈ events.map Event.blockText, Block.IsBody body := by
    intro body hbody
    obtain ⟨event, hevent, rfl⟩ := List.mem_map.mp hbody
    exact Event.isBody_blockText hlaw (h event hevent)
  have htexts := Block.map_text_ofDocument_join hbodies
  obtain ⟨hevents, hrejections⟩ := Block.events_of_map_text hlaw htexts h
  have hblocks : (Reader.ofDocument (writeDocument events)).blocks =
      Block.ofDocument (Text.join "\n---\n" (events.map Event.blockText)) := rfl
  cases policy with
  | abort => simp only [readDocument, Reader.read_abort, hblocks, hevents, hrejections, and_self]
  | skip => simp only [readDocument, Reader.read_skip, hblocks, hevents, hrejections, and_self]

end

section

attribute [local instance] Languages.french

/-- A talk up to the last minute of the calendar whose texts look like parts of a document. -/
def Event.lastTalk : Event where
  kind := .talk
  title := "date: --- [2]"
  start := ⟨⟨3652058, by decide⟩, 1380, by decide⟩
  duration := 59
  description := some "title: Other\n\n----\n\r--- \n:"
  language := some .french
  speakers := ["Zoé", "type: fun"]
  end_lt := by decide

theorem Event.isWritable_lastTalk : lastTalk.IsWritable where
  title_ne_nil := by decide
  title_trim := by decide
  title_line := by decide
  duration_le := by decide
  language_held := by
    rintro _ ⟨⟩
    exact ⟨"fr", by decide, by decide⟩
  speakers_names := by
    intro name hname
    rcases List.mem_pair.mp hname with rfl | rfl
    · exact ⟨⟨by decide, by decide, by decide, by decide, by decide⟩, by decide⟩
    · exact ⟨⟨by decide, by decide, by decide, by decide, by decide⟩, by decide⟩
  description_ne_nil := by
    rintro _ ⟨⟩
    decide
  description_trim := by
    rintro _ ⟨⟩
    decide
  description_returns := by
    rintro _ ⟨⟩
    decide
  description_lines := by
    rintro _ ⟨⟩
    decide

theorem readDocument_writeDocument_lastTalk :
    Languages.french.IsLawful ∧
      (∀ event ∈ [Event.lastTalk, Event.lastTalk], event.IsWritable) ∧
      (readDocument (writeDocument [Event.lastTalk, Event.lastTalk]) Policy.abort.name).result =
        .ok [Event.lastTalk, Event.lastTalk] ∧
      (readDocument (writeDocument [Event.lastTalk, Event.lastTalk])
        Policy.abort.name).reader.rejections = [] := by
  have htalk : ∀ event ∈ [Event.lastTalk, Event.lastTalk], event.IsWritable := by
    intro event hevent
    rcases List.mem_pair.mp hevent with rfl | rfl
    · exact Event.isWritable_lastTalk
    · exact Event.isWritable_lastTalk
  exact ⟨Languages.isLawful_french, htalk,
    readDocument_writeDocument Languages.isLawful_french _ htalk .abort⟩

end

end Agenda
