import Agenda.Proofs.Calendar.Date
import Agenda.Proofs.Render.Page
import Agenda.Render.Basic

/-!
# Columns of a page and sections of a booklet

A page walks over the days of the window, a booklet over all events by their starts, remembering the
day of the event before. Both visit the same events in the same order, and the sections of a booklet
are those columns of the page that hold an event (`layout_orders_agree`). Each of them stands for
one day and holds the entries of that day (`Booklet.sections_by_day`).
-/

namespace Agenda

namespace Booklet

/-! ### Sections -/

/-- The section of a day; a day without events has none. -/
def daySection (day : Day) (events : List Event) : Text :=
  if events = [] then [] else sectionLine day ++ events.flatMap entryOrNothing

/-- In the section of a day the events of that day follow without a new line for it. -/
theorem sectionsFrom_append_of_day {day : Day} {events : List Event}
    (h : ∀ event ∈ events, event.start.day = day) (rest : List Event) :
    sectionsFrom (some day) (events ++ rest) =
      events.flatMap entryOrNothing ++ sectionsFrom (some day) rest := by
  induction events with
  | nil => rfl
  | cons event others ih =>
    have hday : event.start.day = day := h event List.mem_cons_self
    have hothers := ih fun other hother => h other (List.mem_cons_of_mem _ hother)
    rw [List.cons_append, sectionsFrom, hday, if_pos rfl, List.nil_append, hothers,
      List.flatMap_cons, List.append_assoc]

/-- A new day opens its section. -/
theorem sectionsFrom_append_of_ne {current : Option Day} {day : Day} (hnew : current ≠ some day)
    {events : List Event} (h : ∀ event ∈ events, event.start.day = day) (rest : List Event) :
    sectionsFrom current (events ++ rest) =
      daySection day events ++
        sectionsFrom (if events = [] then current else some day) rest := by
  cases events with
  | nil => rfl
  | cons event others =>
    have hday : event.start.day = day := h event List.mem_cons_self
    have hothers := sectionsFrom_append_of_day
      (fun other hother => h other (List.mem_cons_of_mem _ hother)) rest
    have hne : event :: others ≠ [] := List.cons_ne_nil _ _
    rw [List.cons_append, sectionsFrom, hday, if_neg hnew, hothers, daySection, if_neg hne,
      if_neg hne, List.flatMap_cons]
    simp only [List.append_assoc]

/-- The remembered day is always behind the days still to come, so that every day with events opens
exactly one section. -/
theorem sectionsFrom_flatMap {days : List Day} (hdays : days.Pairwise fun a b => a.number < b.number)
    {eventsOn : Day → List Event} (h : ∀ day, ∀ event ∈ eventsOn day, event.start.day = day)
    {current : Option Day} (hcurrent : ∀ day ∈ days, current ≠ some day) :
    sectionsFrom current (days.flatMap eventsOn) =
      days.flatMap fun day => daySection day (eventsOn day) := by
  induction days generalizing current with
  | nil => rfl
  | cons day rest ih =>
    obtain ⟨hbefore, hrest⟩ := List.pairwise_cons.mp hdays
    -- What is remembered behind this day is no day of those that follow it.
    have hnext : ∀ next ∈ rest,
        (if eventsOn day = [] then current else some day) ≠ some next := by
      intro next hmem
      split
      · exact hcurrent next (List.mem_cons_of_mem _ hmem)
      · intro heq
        have hlt := hbefore next hmem
        rw [Option.some.inj heq] at hlt
        exact Nat.lt_irrefl _ hlt
    rw [List.flatMap_cons, List.flatMap_cons,
      sectionsFrom_append_of_ne (hcurrent day List.mem_cons_self) (h day), ih hrest hnext]

/-- **A booklet has a section for every day with events**, holding what starts on that day. -/
theorem ofTimetable_eq_days (timetable : Timetable) :
    ofTimetable timetable =
      timetable.window.days.flatMap fun day => daySection day (timetable.eventsOn day) := by
  rw [ofTimetable, ← timetable.flatMap_eventsOn_days]
  exact sectionsFrom_flatMap timetable.window.pairwise_days
    (fun day event hevent => ((Timetable.mem_eventsOn timetable).mp hevent).2)
    fun _ _ => Option.some_ne_none _ ∘ Eq.symm

/-! ### Sections day by day -/

/-- Whether something starts on a day. -/
def IsBusy (timetable : Timetable) (day : Day) : Prop :=
  ∃ event ∈ timetable.events, event.start.day = day

instance (timetable : Timetable) : DecidablePred (IsBusy timetable) :=
  fun _ => inferInstanceAs (Decidable (∃ event ∈ _, _))

/-- Whether an event is of a kind that has entries. -/
def HasEntry (event : Event) : Prop := event.kind = .talk ∨ event.kind = .leisure

instance : DecidablePred HasEntry := fun _ => inferInstanceAs (Decidable (_ ∨ _))

/-- A section of a booklet: a day, and the events that have an entry under it. -/
structure Section where
  day : Day
  entries : List Event

/-- The mark of the language of an event, if it has one. -/
def languageMark (event : Event) : Text :=
  event.language.elim [] fun language => ("\\" ++ language.alpha3 ++ " " : Text)

/-- The speakers of an event behind the time, if it has any. -/
def speakersMention (event : Event) : Text :=
  if event.speakers = [] then [] else " - " ++ event.speakerLine

/-- The description of an event as a paragraph, unless there is none or an empty one. -/
def descriptionMention (event : Event) : Text :=
  if event.description.getD [] = [] then []
  else "\\paragraph\x7b\x7d " ++ event.description.getD []

/-- An entry written out: a line with the title behind the mark of its language, a line with the
time of the start and the speakers, and the description. -/
def entryText (event : Event) : Text :=
  "\\subsection\x7b" ++ languageMark event ++ event.title ++ "\x7d\n" ++
    ("\\paragraph\x7b\x7d \\textit\x7b" ++ event.start.clock ++ speakersMention event ++
      "\x7d\n") ++ descriptionMention event ++ "\n\n"

/-- A section written out: a line with its day, and its entries. -/
def Section.text (part : Section) : Text :=
  "\\section\x7b" ++ part.day.heading ++ "\x7d\n" ++ part.entries.flatMap entryText

/-- The section of a day, with those of its events that have an entry. -/
def sectionOf (timetable : Timetable) (day : Day) : Section :=
  ⟨day, (timetable.eventsOn day).filter (HasEntry ·)⟩

/-- The sections of a timetable: one for every day of the window on which something starts. -/
def sections (timetable : Timetable) : List Section :=
  (timetable.window.days.filter (IsBusy timetable ·)).map (sectionOf timetable)

variable {timetable : Timetable} {day : Day}

theorem hasAbstract_eq_true_iff (event : Event) :
    hasAbstract event.kind = true ↔ HasEntry event := by
  rw [HasEntry]
  cases event.kind <;> decide

theorem flatMap_entryOrNothing (events : List Event) :
    events.flatMap entryOrNothing = (events.filter (HasEntry ·)).flatMap entry := by
  induction events with
  | nil => rfl
  | cons event rest ih =>
    by_cases hentry : HasEntry event
    · rw [List.flatMap_cons, ih, entryOrNothing,
        if_pos ((hasAbstract_eq_true_iff event).mpr hentry),
        List.filter_cons_of_pos (by simpa using hentry), List.flatMap_cons]
    · rw [List.flatMap_cons, ih, entryOrNothing,
        if_neg (mt (hasAbstract_eq_true_iff event).mp hentry),
        List.filter_cons_of_neg (by simpa using hentry), List.nil_append]

theorem sectionLine_eq (day : Day) :
    sectionLine day = "\\section\x7b" ++ day.heading ++ "\x7d\n" := by
  have hopen : ("\\section\x7b" : Text) = "\\section" ++ "\x7b" := by decide
  have hclose : ("\x7d\n" : Text) = "\x7d" ++ "\n" := by decide
  unfold sectionLine braced
  rw [hopen, hclose]
  simp only [List.append_assoc]

theorem titleLine_eq (event : Event) :
    titleLine event = "\\subsection\x7b" ++ languageMark event ++ event.title ++ "\x7d\n" := by
  have hopen : ("\\subsection\x7b" : Text) = "\\subsection" ++ "\x7b" := by decide
  have hclose : ("\x7d\n" : Text) = "\x7d" ++ "\n" := by decide
  unfold titleLine braced languageMark
  rw [hopen, hclose]
  cases event.language <;> simp only [Option.elim, List.append_assoc]

theorem subtitleLine_eq (event : Event) :
    subtitleLine event = "\\paragraph\x7b\x7d \\textit\x7b" ++ event.start.clock ++
      speakersMention event ++ "\x7d\n" := by
  have hopen : ("\\paragraph\x7b\x7d \\textit\x7b" : Text) =
      "\\paragraph\x7b\x7d \\textit" ++ "\x7b" := by decide
  have hclose : ("\x7d\n" : Text) = "\x7d" ++ "\n" := by decide
  unfold subtitleLine braced speakersMention
  rw [hopen, hclose]
  simp only [List.isEmpty_iff, List.append_assoc]

theorem descriptionText_eq (event : Event) :
    descriptionText event = descriptionMention event := by
  unfold descriptionText descriptionMention
  rcases event.description with _ | _ | ⟨c, rest⟩ <;> rfl

/-- **An entry is written as it has to be.** -/
theorem entry_eq_entryText (event : Event) : entry event = entryText event := by
  unfold entry entryText
  rw [titleLine_eq, subtitleLine_eq, descriptionText_eq]

theorem eventsOn_eq_nil_iff : timetable.eventsOn day = [] ↔ ¬ IsBusy timetable day := by
  simp only [List.eq_nil_iff_forall_not_mem, Timetable.mem_eventsOn, IsBusy, not_exists]

theorem text_sectionOf (h : IsBusy timetable day) :
    (sectionOf timetable day).text = daySection day (timetable.eventsOn day) := by
  have hentries : entry = entryText := funext entry_eq_entryText
  rw [daySection, if_neg (mt eventsOn_eq_nil_iff.mp (not_not_intro h)), flatMap_entryOrNothing,
    sectionLine_eq, hentries]
  rfl

/-- What is made of nothing for a day without events is made of the busy days alone. -/
theorem flatMap_filter_isBusy {α : Type} {f : Day → List α}
    (h : ∀ day, ¬ IsBusy timetable day → f day = []) (days : List Day) :
    (days.filter (IsBusy timetable ·)).flatMap f = days.flatMap f := by
  induction days with
  | nil => rfl
  | cons day rest ih =>
    by_cases hday : IsBusy timetable day
    · rw [List.filter_cons_of_pos (by simpa using hday), List.flatMap_cons, List.flatMap_cons, ih]
    · rw [List.filter_cons_of_neg (by simpa using hday), List.flatMap_cons, h day hday, ih,
        List.nil_append]

/-- **A booklet is its sections**, one after the other. -/
theorem ofTimetable_eq_sections (timetable : Timetable) :
    ofTimetable timetable = (sections timetable).flatMap Section.text := by
  have hempty : ∀ day, ¬ IsBusy timetable day → daySection day (timetable.eventsOn day) = [] :=
    fun day h => if_pos (eventsOn_eq_nil_iff.mpr h)
  rw [ofTimetable_eq_days, ← flatMap_filter_isBusy hempty, sections, List.flatMap_map]
  refine List.flatMap_congr fun day hday => ?_
  exact (text_sectionOf (of_decide_eq_true (List.mem_filter.mp hday).2)).symm

theorem map_day_sections (timetable : Timetable) :
    (sections timetable).map (·.day) = timetable.window.days.filter (IsBusy timetable ·) := by
  rw [sections, List.map_map]
  exact List.map_id _

/-- The entries of all sections, one after the other, are those of the events by their starts. -/
theorem flatMap_entries_sections (timetable : Timetable) :
    (sections timetable).flatMap (·.entries) =
      (Timetable.byStart timetable.events).filter (HasEntry ·) := by
  have hempty : ∀ day, ¬ IsBusy timetable day → (sectionOf timetable day).entries = [] := by
    intro day h
    rw [sectionOf, eventsOn_eq_nil_iff.mpr h]
    rfl
  rw [← timetable.flatMap_eventsOn_days, List.filter_flatMap, sections, List.flatMap_map,
    flatMap_filter_isBusy hempty]
  rfl

/-- **The one pass over a timetable makes a section for every day on which something starts**, in
the order of the days, be it only meals, pauses or transport; and under the line of a day stand the
entries of the talks and leisure events that start on it, in their order, and no others. -/
theorem sections_by_day (timetable : Timetable) :
    (bindings timetable).lookup ("ABSTRACTS" : Text) =
        some (sectionsFrom none (Timetable.byStart timetable.events)) ∧
      sectionsFrom none (Timetable.byStart timetable.events) =
        (sections timetable).flatMap Section.text ∧
      (sections timetable).map (·.day) = timetable.window.days.filter (IsBusy timetable ·) ∧
      ((sections timetable).map (·.day)).Pairwise (fun a b => a.date.Before b.date) ∧
      (∀ day, day ∈ (sections timetable).map (·.day) ↔
        ∃ event ∈ timetable.events, event.start.day = day) ∧
      (∀ part ∈ sections timetable,
        part.entries = (timetable.eventsOn part.day).filter (HasEntry ·) ∧
        ∀ event, event ∈ part.entries ↔ event ∈ timetable.events ∧ event.start.day = part.day ∧
          (event.kind = .talk ∨ event.kind = .leisure)) ∧
      (sections timetable).flatMap (·.entries) =
        (Timetable.byStart timetable.events).filter (HasEntry ·) := by
  refine ⟨rfl, ofTimetable_eq_sections timetable, map_day_sections timetable, ?_, fun day => ?_,
    fun part hpart => ?_, flatMap_entries_sections timetable⟩
  · rw [map_day_sections]
    exact (timetable.window.pairwise_days.imp fun hlt => Day.before_date_iff.mpr hlt).filter _
  · rw [map_day_sections, List.mem_filter, decide_eq_true_iff]
    refine ⟨And.right, fun h => ⟨?_, h⟩⟩
    obtain ⟨event, hevent, rfl⟩ := h
    exact timetable.mem_days_of_mem_events hevent
  · obtain ⟨day, -, rfl⟩ := List.mem_map.mp hpart
    refine ⟨rfl, fun event => ?_⟩
    rw [sectionOf, List.mem_filter, Timetable.mem_eventsOn, decide_eq_true_iff, and_assoc, HasEntry]

end Booklet

theorem Timetable.apply_of_ofEvents? {events : List Event} {timetable : Timetable}
    (h : Timetable.ofEvents? events = some timetable) (world : World) :
    Timetable.stage.apply () events world = (.ok timetable, world) := by
  unfold Timetable.stage
  dsimp only
  rw [h]
  rfl

open StableSort Timetable in
/-- **No event is lost, doubled or misplaced between the two orders of a timetable.** Laying out
some events gives a timetable whose days, one after the other, hold these events sorted by their
starts, equal starts in their given order; the columns of the page show just that, every event in
the column of the day on which it starts; and the sections of the booklet are made of the same
columns. -/
theorem layout_orders_agree [Converter] (events : List Event) (h : events ≠ []) :
    ∃ timetable : Timetable, timetable.events = events ∧
      (∀ world, Timetable.stage.apply () events world = (.ok timetable, world)) ∧
      timetable.window.days.flatMap timetable.eventsOn = byStart events ∧
      ((byStart events).Perm events ∧ SortedBy startNumber (byStart events) ∧
        ∀ k, atKey startNumber k (byStart events) = atKey startNumber k events) ∧
      (∀ dayMinutes, Page.ofTimetable dayMinutes timetable =
        ((byStart events).findSome? Page.unconverted?).elim
          (.ok ((Page.columns timetable).flatMap (Page.Column.html dayMinutes))) .error) ∧
      (∀ dayMinutes event, Page.Tells event (Page.markup event)
        (Page.pieceText dayMinutes (.event event))) ∧
      (Page.columns timetable).flatMap Page.Column.events = byStart events ∧
      ((Page.columns timetable).map (·.day)).Nodup ∧
      (∀ column ∈ Page.columns timetable, ∀ event,
        event ∈ column.events ↔ event ∈ events ∧ event.start.day = column.day) ∧
      Booklet.ofTimetable timetable =
        Booklet.sectionsFrom none ((Page.columns timetable).flatMap Page.Column.events) ∧
      Booklet.ofTimetable timetable = (Page.columns timetable).flatMap fun column =>
        Booklet.daySection column.day column.events := by
  obtain ⟨timetable, htimetable, hevents⟩ : ∃ timetable : Timetable,
      Timetable.ofEvents? events = some timetable ∧ timetable.events = events := by
    cases hlayout : Timetable.ofEvents? events with
    | none => exact absurd (Timetable.ofEvents?_eq_none.mp hlayout) h
    | some timetable => exact ⟨timetable, rfl, events_of_ofEvents? hlayout⟩
  subst hevents
  have hcolumns : (Page.columns timetable).flatMap Page.Column.events =
      byStart timetable.events :=
    (Page.flatMap_columns timetable fun _ events => events).trans timetable.flatMap_eventsOn_days
  refine ⟨timetable, rfl, apply_of_ofEvents? htimetable, timetable.flatMap_eventsOn_days, ?_, ?_,
    ?_, hcolumns, ?_, ?_, ?_, ?_⟩
  · exact ⟨perm_byStart _, sortedBy_byStart _, fun k => atKey_byStart k _⟩
  · exact fun dayMinutes => Page.ofTimetable_eq dayMinutes timetable
  · exact fun dayMinutes event => Page.tells_eventHtml dayMinutes event (Page.markup event)
  · rw [Page.map_day_columns]
    exact nodup_days timetable
  · intro column hcolumn event
    rw [Page.events_of_mem_columns hcolumn, mem_eventsOn]
  · rw [hcolumns, Booklet.ofTimetable]
  · rw [Booklet.ofTimetable_eq_days, Page.flatMap_columns]

/-- A pause in the first minutes of March, behind a leap day. -/
def Event.marchPause : Event where
  kind := .pause
  title := "Night"
  start := ⟨⟨738945, by decide⟩, 5, by decide⟩
  duration := 10
  description := none
  language := none
  speakers := []
  end_lt := by decide

/-- An event over the end of a leap day. -/
def Event.leapLeisure : Event :=
  { Event.marchPause with
    kind := .leisure, start := ⟨⟨738944, by decide⟩, 1430, by decide⟩, end_lt := by decide }

theorem layout_orders_agree_leap :
    [Event.marchPause, Event.leapLeisure] ≠ [] ∧
      ∃ timetable : Timetable, timetable.events = [Event.marchPause, Event.leapLeisure] ∧
        timetable.window.days.flatMap timetable.eventsOn =
          [Event.leapLeisure, Event.marchPause] ∧
        (Page.columns timetable).flatMap Page.Column.events =
          [Event.leapLeisure, Event.marchPause] := by
  let _ := Converter.paragraph
  have hne : [Event.marchPause, Event.leapLeisure] ≠ [] := List.cons_ne_nil _ _
  have hsorted : Timetable.byStart [Event.marchPause, Event.leapLeisure] =
      [Event.leapLeisure, Event.marchPause] := by
    have hlt : ¬ Event.marchPause.start.number ≤ Event.leapLeisure.start.number := by decide
    simp [Timetable.byStart, List.mergeSort, hlt]
  obtain ⟨timetable, hevents, _, hdays, _, _, _, hcolumns, _⟩ := layout_orders_agree _ hne
  rw [hsorted] at hdays hcolumns
  exact ⟨hne, timetable, hevents, hdays, hcolumns⟩

end Agenda
