import Agenda.Proofs.Render.Page
import Mathlib.Data.List.Induction

/-!
# Labels between the events of a column

A column is made event by event. Behind the pieces of the events before it, an event adds a label
with its start, unless the last of those events ends at that moment, then its block, and a label
with its end (`Page.columnPieces_concat`). A label that is left out stands there already: it is the
one with the end of the event before. So the block of every event stands between a label with its
start and a label with its end, and the number of labels follows from the number of neighbours
without a gap (`Page.events_between_labels`).

Moments are compared as a whole, day and time, while a label shows the time alone. Nothing here asks
that the events be in order or on the day of the column: they may overlap, start together, take no
time or go on over midnight.
-/

namespace Agenda.Page

/-! ### What labels show -/

def Piece.label? : Piece → Option Text
  | .heading _ => none
  | .time moment => some moment.clock
  | .event _ => none

def labels (pieces : List Piece) : List Text := pieces.filterMap Piece.label?

def shown (pieces : List Piece) : List Event := pieces.filterMap Piece.event?

theorem labels_append (first second : List Piece) :
    labels (first ++ second) = labels first ++ labels second := by
  simp only [labels, List.filterMap_append]

theorem shown_append (first second : List Piece) :
    shown (first ++ second) = shown first ++ shown second := by
  simp only [shown, List.filterMap_append]

/-- A label is written as a time. -/
theorem pieceText_of_label? [Converter] {piece : Piece} {label : Text}
    (h : piece.label? = some label) (dayMinutes : Int) :
    pieceText dayMinutes piece = "<span class=\"time\">" ++ label ++ "</span>" := by
  cases piece with
  | heading day => cases h
  | time moment =>
    obtain rfl := Option.some.inj h
    rfl
  | event event => cases h

/-! ### Events without a gap between them -/

/-- Whether an event starts at the moment at which the last of some events ends. -/
def Joins (front : List Event) (event : Event) : Prop :=
  front.getLast?.map Event.finish = some event.start

instance (front : List Event) (event : Event) : Decidable (Joins front event) :=
  inferInstanceAs (Decidable (_ = _))

/-- The number of events that start at the moment at which the event just before them ends. -/
def joinCount (events : List Event) : Nat :=
  (events.zip events.tail).countP fun pair => pair.1.finish = pair.2.start

theorem not_joins_nil (event : Event) : ¬ Joins [] event := by
  intro h
  cases h

theorem joins_concat_iff {front : List Event} {before event : Event} :
    Joins (front ++ [before]) event ↔ before.finish = event.start := by
  simp only [Joins, List.getLast?_concat, Option.map_some, Option.some.injEq]

theorem joins_cons_of_ne_nil {front : List Event} (hne : front ≠ []) (first event : Event) :
    Joins (first :: front) event ↔ Joins front event := by
  rw [Joins, List.getLast?_cons_of_ne_nil hne, Joins]

theorem joinCount_concat (front : List Event) (event : Event) :
    joinCount (front ++ [event]) = joinCount front + if Joins front event then 1 else 0 := by
  induction front with
  | nil => rfl
  | cons first rest ih =>
    cases rest with
    | nil =>
      have hjoins : Joins [first] event ↔ first.finish = event.start := by
        rw [← joins_concat_iff, List.nil_append]
      by_cases h : first.finish = event.start
      · rw [if_pos (hjoins.mpr h)]
        simp [joinCount, h]
      · rw [if_neg (mt hjoins.mp h)]
        simp [joinCount, h]
    | cons second rest =>
      have hstep : ∀ events : List Event, joinCount (first :: second :: events) =
          joinCount (second :: events) + if first.finish = second.start then 1 else 0 := by
        intro events
        simp only [joinCount, List.tail_cons, List.zip_cons_cons, List.countP_cons,
          decide_eq_true_eq]
      have hjoins := joins_cons_of_ne_nil (List.cons_ne_nil second rest) first event
      rw [List.cons_append] at ih
      rw [List.cons_append, List.cons_append, hstep, hstep, ih]
      simp only [hjoins]
      omega

/-! ### A column, event by event -/

/-- The label in front of an event that comes behind some others. -/
def startLabel (front : List Event) (event : Event) : List Piece :=
  if Joins front event then [] else [.time event.start]

/-- Behind some events the end of the last one is remembered. -/
theorem eventPieces_append (previous : Option Moment) (front back : List Event) :
    eventPieces previous (front ++ back) =
      eventPieces previous front ++
        eventPieces ((front.getLast?.map Event.finish).or previous) back := by
  induction front generalizing previous with
  | nil => rfl
  | cons event rest ih =>
    have hlast : ((event :: rest).getLast?.map Event.finish).or previous =
        (rest.getLast?.map Event.finish).or (some event.finish) := by
      rw [List.getLast?_cons]
      cases rest.getLast? with
      | none => rfl
      | some last => rfl
    simp only [List.cons_append, eventPieces, ih, hlast, List.append_assoc]

theorem columnPieces_append (day : Day) (front back : List Event) :
    columnPieces day (front ++ back) =
      columnPieces day front ++ eventPieces (front.getLast?.map Event.finish) back := by
  simp only [columnPieces, eventPieces_append, Option.or_none, List.cons_append]

/-- **What one event adds to a column**: a label with its start, unless the event before ends just
then, its block, and a label with its end. -/
theorem columnPieces_split (day : Day) (front : List Event) (event : Event) (back : List Event) :
    columnPieces day (front ++ event :: back) =
      columnPieces day front ++ startLabel front event ++ .event event :: .time event.finish ::
        eventPieces (some event.finish) back := by
  rw [columnPieces_append, eventPieces, startLabel, List.append_assoc]
  rfl

theorem columnPieces_concat (day : Day) (front : List Event) (event : Event) :
    columnPieces day (front ++ [event]) =
      columnPieces day front ++ startLabel front event ++ [.event event, .time event.finish] :=
  columnPieces_split day front event []

/-- A column of events ends in the label with the last end. -/
theorem getLast?_columnPieces_concat (day : Day) (front : List Event) (event : Event) :
    (columnPieces day (front ++ [event])).getLast? = some (.time event.finish) := by
  rw [columnPieces_concat, List.append_cons, List.getLast?_concat]

theorem shown_startLabel (front : List Event) (event : Event) :
    shown (startLabel front event) = [] := by
  rw [startLabel]
  split
  · rfl
  · rfl

/-- **In front of the block of an event stands a label with its start**, be it written for it or
for the end of the event before. -/
theorem getLast?_columnPieces_append_startLabel (day : Day) (front : List Event) (event : Event) :
    (columnPieces day front ++ startLabel front event).getLast? = some (.time event.start) := by
  rw [startLabel]
  split
  · rename_i hjoins
    rcases List.eq_nil_or_concat front with rfl | ⟨others, before, rfl⟩
    · exact absurd hjoins (not_joins_nil event)
    · rw [List.concat_eq_append] at hjoins ⊢
      rw [joins_concat_iff] at hjoins
      rw [List.append_nil, getLast?_columnPieces_concat, hjoins]
  · exact List.getLast?_concat

/-! ### Counting labels -/

theorem length_labels_startLabel (front : List Event) (event : Event) :
    (labels (startLabel front event)).length + (if Joins front event then 1 else 0) = 1 := by
  rw [startLabel]
  split
  · rfl
  · rfl

/-- Every event brings two labels, but for those that start when the event before them ends. -/
theorem length_labels_columnPieces (day : Day) (events : List Event) :
    (labels (columnPieces day events)).length + joinCount events = 2 * events.length := by
  induction events using List.reverseRecOn with
  | nil => rfl
  | append_singleton front event ih =>
    have hstart := length_labels_startLabel front event
    have hends : (labels [.event event, .time event.finish]).length = 1 := rfl
    rw [columnPieces_concat, labels_append, labels_append, joinCount_concat]
    simp only [List.length_append, List.length_singleton, hends]
    omega

/-! ### Reading a column -/

/-- The last label of some pieces that end in one. -/
theorem getLast?_labels {pieces : List Piece} {moment : Moment}
    (h : pieces.getLast? = some (.time moment)) :
    (labels pieces).getLast? = some moment.clock := by
  obtain ⟨front, rfl⟩ := List.getLast?_eq_some_iff.mp h
  rw [labels_append]
  exact List.getLast?_concat

/-- Whether the block of an event stands in a column behind `before` and in front of `behind`, so
that the start and the end of the event are read off the labels on either side of it. -/
structure ReadOff (day : Day) (front : List Event) (event : Event) (back : List Event)
    (before behind : List Piece) : Prop where
  pieces_eq : columnPieces day (front ++ event :: back) = before ++ .event event :: behind
  shown_before : shown before = front
  shown_behind : shown behind = back
  last_label : (labels before).getLast? = some event.start.clock
  first_label : (labels behind).head? = some event.finish.clock
  /-- The two labels stand right beside the block. -/
  last_piece : before.getLast? = some (.time event.start)
  first_piece : behind.head? = some (.time event.finish)
  /-- A label of its own is written for the start of the first event, and for that of any other one
  just if the event before it ends at another moment. -/
  before_eq : before = columnPieces day front ++
    if front = [] ∨ ∃ last ∈ front.getLast?, last.finish ≠ event.start then [.time event.start]
    else []

theorem startLabel_eq (front : List Event) (event : Event) :
    startLabel front event =
      if front = [] ∨ ∃ last ∈ front.getLast?, last.finish ≠ event.start then [.time event.start]
      else [] := by
  rcases List.eq_nil_or_concat front with rfl | ⟨others, last, rfl⟩
  · rfl
  · rw [List.concat_eq_append, startLabel]
    simp only [joins_concat_iff]
    simp

theorem readOff (day : Day) (front : List Event) (event : Event) (back : List Event) :
    ReadOff day front event back (columnPieces day front ++ startLabel front event)
      (.time event.finish :: eventPieces (some event.finish) back) where
  pieces_eq := columnPieces_split day front event back
  shown_before := by
    rw [shown_append, shown_startLabel, List.append_nil]
    exact filterMap_columnPieces day front
  shown_behind := filterMap_eventPieces (some event.finish) back
  last_label := getLast?_labels (getLast?_columnPieces_append_startLabel day front event)
  first_label := rfl
  last_piece := getLast?_columnPieces_append_startLabel day front event
  first_piece := rfl
  before_eq := by rw [startLabel_eq]

/-- **Every event of a column can be read off the labels next to it.** In the column of some events
the last label in front of the block of an event shows its start and the first one behind it its
end; a label of its own is written just for the start of the first event and of every event that
starts at another moment than that at which the event before it ends; and the labels are two for
each event, less one for each pair of neighbours without a gap. Nothing else decides how a column is
written, but for descriptions that cannot be converted: then there is none. -/
theorem events_between_labels [Converter] (day : Day) (events : List Event) :
    (∀ dayMinutes, columnHtml dayMinutes day events =
      (events.findSome? unconverted?).elim (.ok ("<div class=\"day\">" ++
        (columnPieces day events).flatMap (pieceText dayMinutes) ++ "</div>\n")) .error) ∧
      (∀ piece label, Piece.label? piece = some label → ∀ dayMinutes,
        pieceText dayMinutes piece = "<span class=\"time\">" ++ label ++ "</span>") ∧
      (∀ dayMinutes event, Tells event (markup event) (pieceText dayMinutes (.event event))) ∧
      shown (columnPieces day events) = events ∧
      (∀ front event back, events = front ++ event :: back →
        ∃ before behind, ReadOff day front event back before behind) ∧
      (labels (columnPieces day events)).length + joinCount events = 2 * events.length := by
  refine ⟨fun dayMinutes => columnHtml_eq dayMinutes day events,
    fun piece label h dayMinutes => pieceText_of_label? h dayMinutes,
    fun dayMinutes event => tells_eventHtml dayMinutes event (markup event),
    filterMap_columnPieces day events, fun front event back _ => ?_,
    length_labels_columnPieces day events⟩
  exact ⟨_, _, readOff day front event back⟩

/-- A watch over midnight, one that begins as it ends, and one that begins with the first and takes
no time. -/
def watches : List Event :=
  [.nightWatch,
    { Event.nightWatch with start := Event.nightWatch.finish, duration := 30, end_lt := by decide },
    { Event.nightWatch with duration := 0, end_lt := by decide }]

theorem events_between_labels_watches :
    labels (columnPieces Event.nightWatch.start.day watches) =
        ["22:00", "01:00", "01:30", "22:00", "22:00"] ∧
      joinCount watches = 1 ∧
      ∃ before behind, ReadOff Event.nightWatch.start.day (watches.take 1) watches[1]
        (watches.drop 2) before behind := by
  let _ := Converter.paragraph
  obtain ⟨-, -, -, -, hread, -⟩ := events_between_labels Event.nightWatch.start.day watches
  refine ⟨by decide +kernel, by decide +kernel, ?_⟩
  exact hread (watches.take 1) watches[1] (watches.drop 2) rfl

end Agenda.Page
