import Agenda.Proofs.Timetable.Order
import Agenda.Render.Page
import Mathlib.Data.List.Basic

/-!
# Pages

A page is made of columns, one for each day of the window, and a column shows every event that it is
made for exactly once (`Page.filterMap_columnPieces`). The block of an event tells its kind, its
title, the speakers of a talk and the description (`Page.tells_eventHtml`).

A page is written or is not: it is not if the converter fails for a description, and then for the
first one by the starts of the events (`Page.ofTimetable_eq`). So what is written is described on
its own, with every description as far as it can be converted.
-/

namespace Agenda

/-- A converter of descriptions that hold nothing but words: they make one paragraph. -/
@[reducible] def Converter.paragraph : Converter where
  convert description := .ok ("<p>" ++ description ++ "</p>")

namespace Page

/-! ### Columns -/

def Piece.event? : Piece → Option Event
  | .heading _ => none
  | .time _ => none
  | .event shown => some shown

/-- The column of a day. -/
structure Column where
  day : Day
  pieces : List Piece

/-- The events that a column shows, from top to bottom. -/
def Column.events (column : Column) : List Event := column.pieces.filterMap Piece.event?

def columns (timetable : Timetable) : List Column :=
  timetable.window.days.map fun day => ⟨day, columnPieces day (timetable.eventsOn day)⟩

theorem filterMap_eventPieces (previous : Option Moment) (events : List Event) :
    (eventPieces previous events).filterMap Piece.event? = events := by
  induction events generalizing previous with
  | nil => rfl
  | cons event rest ih =>
    have hrest := ih (some event.finish)
    rw [eventPieces, List.filterMap_append]
    split <;> simp only [List.filterMap_cons, List.filterMap_nil, Piece.event?, List.nil_append,
      hrest]

/-- **A column shows every event that it is made for exactly once**, in the order given. -/
theorem filterMap_columnPieces (day : Day) (events : List Event) :
    (columnPieces day events).filterMap Piece.event? = events := by
  simp only [columnPieces, List.filterMap_cons, Piece.event?, filterMap_eventPieces]

variable {timetable : Timetable}

theorem events_of_mem_columns {column : Column} (h : column ∈ columns timetable) :
    column.events = timetable.eventsOn column.day := by
  obtain ⟨day, _, rfl⟩ := List.mem_map.mp h
  exact filterMap_columnPieces day _

theorem map_day_columns (timetable : Timetable) :
    (columns timetable).map (·.day) = timetable.window.days := by
  rw [columns, List.map_map]
  exact List.map_id _

/-- Any text made of columns by their days and events is made of the days of the window. -/
theorem flatMap_columns {α : Type} (timetable : Timetable) (f : Day → List Event → List α) :
    (columns timetable).flatMap (fun column => f column.day column.events) =
      timetable.window.days.flatMap fun day => f day (timetable.eventsOn day) := by
  rw [columns, List.flatMap_map]
  simp only [Column.events, filterMap_columnPieces]

/-! ### Descriptions that cannot be converted -/

section

variable {α β ε : Type}

/-- What has a value unless something fails is done for all of a list unless the first of them
fails that does. -/
theorem mapM_eq_elim {f : α → Except ε β} {failure? : α → Option ε} {g : α → β}
    (h : ∀ a, f a = (failure? a).elim (.ok (g a)) .error) (l : List α) :
    l.mapM f = (l.findSome? failure?).elim (.ok (l.map g)) .error := by
  induction l with
  | nil => rfl
  | cons a rest ih =>
    rw [List.mapM_cons, h, ih, List.findSome?_cons]
    cases failure? a with
    | some error => rfl
    | none => cases rest.findSome? failure? <;> rfl

theorem findSome?_flatMap (f : β → Option ε) (g : α → List β) (l : List α) :
    (l.flatMap g).findSome? f = l.findSome? fun a => (g a).findSome? f := by
  induction l with
  | nil => rfl
  | cons a rest ih =>
    rw [List.flatMap_cons, List.findSome?_append, List.findSome?_cons, ih]
    cases (g a).findSome? f <;> rfl

end

section

variable [Converter]

/-- What the converter fails with for the description of an event. -/
def unconverted? (event : Event) : Option Trouble :=
  match descriptionHtml event.description with
  | .ok _ => none
  | .error trouble => some trouble

/-- The description of an event as markup, as far as it can be converted. -/
def markup (event : Event) : Text := (descriptionHtml event.description).toOption.getD []

/-- A piece of a column as it is written once the descriptions have been converted. -/
def pieceText (dayMinutes : Int) : Piece → Text
  | .heading day => "<h2>" ++ day.heading ++ "</h2>"
  | .time moment => "<span class=\"time\">" ++ moment.clock ++ "</span>"
  | .event event => eventHtml dayMinutes event (markup event)

/-- A column as it is written once the descriptions have been converted. -/
def Column.html (dayMinutes : Int) (column : Column) : Text :=
  "<div class=\"day\">" ++ column.pieces.flatMap (pieceText dayMinutes) ++ "</div>\n"

/-- A page as it is written once the descriptions have been converted. -/
def text (dayMinutes : Int) (timetable : Timetable) : Text :=
  (columns timetable).flatMap (Column.html dayMinutes)

/-- What the page of a timetable fails with: what the converter fails with first. -/
def failure? (timetable : Timetable) : Option Trouble :=
  (Timetable.byStart timetable.events).findSome? unconverted?

theorem descriptionHtml_eq (event : Event) :
    descriptionHtml event.description = (unconverted? event).elim (.ok (markup event)) .error := by
  rw [unconverted?, markup]
  cases descriptionHtml event.description <;> rfl

/-- A description is not converted only if the converter fails for it. -/
theorem unconverted?_eq_some_iff {event : Event} {trouble : Trouble} :
    unconverted? event = some trouble ↔ ∃ description words, event.description = some description ∧
      description ≠ [] ∧ Converter.convert description = .error words ∧
      trouble = .conversion words := by
  rw [unconverted?]
  rcases event.description with _ | _ | ⟨c, rest⟩
  · simp [descriptionHtml]
  · simp [descriptionHtml]
  · cases hwords : Converter.convert (c :: rest) with
    | ok html => simp [descriptionHtml, hwords, Except.mapError]
    | error words => simp [descriptionHtml, hwords, Except.mapError, eq_comm]

theorem pieceHtml_eq (dayMinutes : Int) (piece : Piece) :
    pieceHtml dayMinutes piece =
      (piece.event?.bind unconverted?).elim (.ok (pieceText dayMinutes piece)) .error := by
  cases piece with
  | heading day => rfl
  | time moment => rfl
  | event event =>
    rw [pieceHtml, descriptionHtml_eq, Piece.event?, Option.bind_some]
    cases unconverted? event <;> rfl

/-- **A column is written unless the description of one of its events cannot be converted.** -/
theorem columnHtml_eq (dayMinutes : Int) (day : Day) (events : List Event) :
    columnHtml dayMinutes day events = (events.findSome? unconverted?).elim
      (.ok (Column.html dayMinutes ⟨day, columnPieces day events⟩)) .error := by
  have hfirst : (columnPieces day events).findSome? (·.event?.bind unconverted?) =
      events.findSome? unconverted? := by
    rw [← List.head?_filterMap, ← List.filterMap_filterMap, filterMap_columnPieces,
      List.head?_filterMap]
  rw [columnHtml, mapM_eq_elim (pieceHtml_eq dayMinutes), hfirst]
  cases events.findSome? unconverted? <;> rfl

/-- **A page is its columns, one after the other**, unless a description cannot be converted; then
the first one by the starts of the events is the reason. -/
theorem ofTimetable_eq (dayMinutes : Int) (timetable : Timetable) :
    ofTimetable dayMinutes timetable =
      (failure? timetable).elim (.ok (text dayMinutes timetable)) .error := by
  rw [ofTimetable, mapM_eq_elim fun day => columnHtml_eq dayMinutes day (timetable.eventsOn day),
    failure?, ← timetable.flatMap_eventsOn_days, findSome?_flatMap, text, columns,
    List.flatMap_map]
  cases timetable.window.days.findSome? _ <;> rfl

/-- A page fails only with words of the converter for one of its events. -/
theorem exists_event_of_failure? {timetable : Timetable} {trouble : Trouble}
    (h : failure? timetable = some trouble) :
    ∃ event ∈ timetable.events, ∃ description words, event.description = some description ∧
      Converter.convert description = .error words ∧ trouble = .conversion words := by
  obtain ⟨event, hmem, hevent⟩ := List.exists_of_findSome?_eq_some h
  obtain ⟨description, words, hdescription, -, hwords, rfl⟩ := unconverted?_eq_some_iff.mp hevent
  exact ⟨event, (Timetable.perm_byStart _).mem_iff.mp hmem, description, words, hdescription,
    hwords, rfl⟩

/-- If the converter never fails, no page does. -/
theorem failure?_eq_none (h : ∀ description, ∃ html, Converter.convert description = .ok html)
    (timetable : Timetable) : failure? timetable = none := by
  rw [Option.eq_none_iff_forall_ne_some]
  intro trouble htrouble
  obtain ⟨_, -, description, words, -, hwords, -⟩ := exists_event_of_failure? htrouble
  obtain ⟨html, hhtml⟩ := h description
  rw [hwords] at hhtml
  cases hhtml

end

/-! ### What a block tells -/

/-- Whether a text tells of an event what a block has to tell: its kind and its title, its speakers
if it is a talk, and its description, which is given as markup. -/
structure Tells (event : Event) (description html : Text) : Prop where
  kind : ("<div class=\"event " ++ event.kind.token ++ "\"" : Text) <:+: html
  title : ("<b>" ++ Text.htmlFull event.title ++ "</b>" : Text) <:+: html
  speakers : event.kind = .talk → event.speakers ≠ [] →
    ("<span>" ++ Text.htmlFull event.speakerLine ++ "</span>" : Text) <:+: html
  description : ("<div class=\"abstract\">" ++ description ++ "</div>" : Text) <:+: html

theorem kind_infix_eventHtml (dayMinutes : Int) (event : Event) (description : Text) :
    ("<div class=\"event " ++ event.kind.token ++ "\"" : Text) <:+:
      eventHtml dayMinutes event description := by
  have hfirst : ("\t<div class=\"event " : Text) = "\t" ++ "<div class=\"event " := by decide
  have hkind : ("\" style=\"height: " : Text) = "\"" ++ " style=\"height: " := by decide
  have hfront : ("<div class=\"event " ++ event.kind.token ++ "\"" : Text) <:+:
      "\t<div class=\"event " ++ event.kind.token ++ "\" style=\"height: " :=
    ⟨"\t", " style=\"height: ", by rw [hfirst, hkind]; simp only [List.append_assoc]⟩
  unfold eventHtml
  iterate 7 apply List.infix_append_of_infix_left
  exact hfront

theorem title_infix_eventHtml (dayMinutes : Int) (event : Event) (description : Text) :
    ("<b>" ++ Text.htmlFull event.title ++ "</b>" : Text) <:+:
      eventHtml dayMinutes event description := by
  have hends : ("</b><br>" : Text) = "</b>" ++ "<br>" := by decide
  have hbehind : ∀ front : Text, ("<b>" ++ Text.htmlFull event.title ++ "</b>" : Text) <:+:
      front ++ "<b>" ++ Text.htmlFull event.title ++ "</b><br>" :=
    fun front => ⟨front, "<br>", by rw [hends]; simp only [List.append_assoc]⟩
  have htitle : ("<b>" ++ Text.htmlFull event.title ++ "</b>" : Text) <:+: titleHtml event :=
    hbehind _
  unfold eventHtml
  iterate 4 apply List.infix_append_of_infix_left
  exact List.infix_append_of_infix_right htitle

theorem speakers_infix_eventHtml (dayMinutes : Int) {event : Event} (description : Text)
    (htalk : event.kind = .talk) (hnamed : event.speakers ≠ []) :
    ("<span>" ++ Text.htmlFull event.speakerLine ++ "</span>" : Text) <:+:
      eventHtml dayMinutes event description := by
  have hspeakers : speakersHtml event =
      "<span>" ++ Text.htmlFull event.speakerLine ++ "</span>" := if_pos ⟨htalk, hnamed⟩
  rw [← hspeakers]
  unfold eventHtml
  iterate 3 apply List.infix_append_of_infix_left
  exact List.infix_append_right

theorem description_infix_eventHtml (dayMinutes : Int) (event : Event) (description : Text) :
    ("<div class=\"abstract\">" ++ description ++ "</div>" : Text) <:+:
      eventHtml dayMinutes event description := by
  have hfirst : ("</div>\n<div class=\"abstract\">" : Text) =
      "</div>\n" ++ "<div class=\"abstract\">" := by decide
  have hlast : ("</div></div>" : Text) = "</div>" ++ "</div>" := by decide
  have hbehind : ∀ front : Text,
      ("<div class=\"abstract\">" ++ description ++ "</div>" : Text) <:+:
        front ++ "</div>\n<div class=\"abstract\">" ++ description ++ "</div></div>" :=
    fun front => ⟨front ++ "</div>\n", "</div>", by
      rw [hfirst, hlast]
      simp only [List.append_assoc]⟩
  exact hbehind _

/-- **The block of an event tells what the event is**, whatever its description has become. -/
theorem tells_eventHtml (dayMinutes : Int) (event : Event) (description : Text) :
    Tells event description (eventHtml dayMinutes event description) where
  kind := kind_infix_eventHtml dayMinutes event description
  title := title_infix_eventHtml dayMinutes event description
  speakers := speakers_infix_eventHtml dayMinutes description
  description := description_infix_eventHtml dayMinutes event description

end Page

end Agenda
