import Agenda.Proofs.Timetable.Extremes
import Agenda.Proofs.Timetable.Order
import Agenda.Render.Picture

/-!
# Boxes inside the grid of a picture

A box stands at the place of the start of its event, while the last hour of the grid comes from the
ends alone. The days and the first hour of the grid hold every start; the last hour does so just
when some event ends that late in the day (`Picture.shows_of_ofEvents?`). An event ends so late
itself unless it goes on over midnight, and of one that does the start may lie below the grid
(`Picture.not_shows_nightWatch`).
-/

namespace Agenda

/-! ### Hours -/

namespace Moment

def hourUp (moment : Moment) : Nat := moment.hour + if moment.minute = 0 then 0 else 1

variable {a b : Moment}

theorem hour_mono (h : a.minuteOfDay ≤ b.minuteOfDay) : a.hour ≤ b.hour :=
  Nat.div_le_div_right h

theorem hourUp_eq (a : Moment) : a.hourUp = (a.minuteOfDay + 59) / 60 := by
  rw [hourUp, hour]
  by_cases hzero : a.minute = 0
  · rw [if_pos hzero]
    rw [minute] at hzero
    omega
  · rw [if_neg hzero]
    rw [minute] at hzero
    omega

theorem hourUp_mono (h : a.minuteOfDay ≤ b.minuteOfDay) : a.hourUp ≤ b.hourUp := by
  rw [hourUp_eq, hourUp_eq]
  exact Nat.div_le_div_right (Nat.add_le_add_right h 59)

theorem hour_le_hourUp (a : Moment) : a.hour ≤ a.hourUp := Nat.le_add_right _ _

end Moment

theorem Window.lastHour_eq (window : Window) : window.lastHour = window.bottomRight.hourUp := rfl

namespace Picture

/-! ### Places -/

/-- A place in a picture: the column, and the row in hundredths of an hour from midnight. -/
structure Place where
  column : Int
  row : Nat
deriving Repr, DecidableEq

def place (window : Window) (event : Event) : Place :=
  ⟨column window event, 100 * event.start.hour + event.start.minute * 5 / 3⟩

theorem column_place (window : Window) (event : Event) :
    (place window event).column = column window event := rfl

theorem row_place (window : Window) (event : Event) :
    (place window event).row = 100 * event.start.hour + event.start.minute * 5 / 3 := rfl

def boxAt (place : Place) (event : Event) : Text :=
  "\n    \\node[" ++ event.kind.token ++ "=" ++ braced (height event.duration) ++
    "\x7b1\x7d] at (" ++ Text.ofInt place.column ++ "," ++
    (Text.padNat 2 (place.row / 100) ++ "." ++ Text.padNat 2 (place.row % 100)) ++ ") " ++
    braced event.cellText ++ ";"

/-- The minutes of an hour make less than a hundred hundredths, and none only for no minutes. -/
theorem hundredths_spec (moment : Moment) :
    moment.minute * 5 / 3 < 100 ∧ (moment.minute * 5 / 3 = 0 ↔ moment.minute = 0) := by
  have hlt : moment.minute < 60 := Nat.mod_lt _ (by decide)
  omega

theorem node_eq_boxAt (window : Window) (event : Event) :
    node window event = boxAt (place window event) event := by
  have hlt := (hundredths_spec event.start).1
  have hhour : (place window event).row / 100 = event.start.hour := by
    rw [row_place]
    omega
  have hminute : (place window event).row % 100 = event.start.minute * 5 / 3 := by
    rw [row_place]
    omega
  unfold node boxAt row
  rw [hhour, hminute, column_place]

/-- Whether a box at a place stands inside the grid of a window. The lines of the hours go from the
first to the last one; those of the days from 1 to one more than there are days, and a box is one
column wide. -/
structure OnGrid (window : Window) (place : Place) : Prop where
  column_ge : 1 ≤ place.column
  column_le : place.column + 1 ≤ window.dayCount + 1
  row_ge : 100 * window.firstHour ≤ place.row
  row_le : place.row ≤ 100 * window.lastHour

/-- Whether a window and the grid drawn for it hold the start of an event. -/
structure Shows (window : Window) (event : Event) : Prop where
  time_ge : window.topLeft.minuteOfDay ≤ event.start.minuteOfDay
  time_le : event.start.minuteOfDay ≤ window.bottomRight.minuteOfDay
  hour_ge : window.firstHour ≤ event.start.hour
  hour_le : event.start.hour ≤ window.lastHour
  onGrid : OnGrid window (place window event)

variable {events : List Event} {window : Window} {event : Event}

theorem column_bounds (h : Window.Spans events window) (hevent : event ∈ events) :
    1 ≤ (place window event).column ∧ (place window event).column ≤ window.dayCount := by
  have hfirst := (h.topLeft_le hevent).1
  have hlast := (h.le_bottomRight hevent).1
  have hday := event.day_start_le_day_finish
  simp only [place, column, Window.dayCount, Window.dayIndex, Window.firstDay, Window.lastDay]
  omega

theorem row_le_iff (window : Window) (event : Event) :
    (place window event).row ≤ 100 * window.lastHour ↔ event.start.hourUp ≤ window.lastHour := by
  obtain ⟨hlt, hzero⟩ := hundredths_spec event.start
  rw [row_place, Moment.hourUp]
  by_cases hminute : event.start.minute = 0
  · rw [if_pos hminute, hzero.mpr hminute]
    omega
  · rw [if_neg hminute]
    omega

theorem row_ge (h : Window.Spans events window) (hevent : event ∈ events) :
    100 * window.firstHour ≤ (place window event).row := by
  have hhour : window.firstHour ≤ event.start.hour := Moment.hour_mono (h.topLeft_le hevent).2
  rw [row_place]
  omega

/-- A box stands inside the grid just when its row is not below the last hour. -/
theorem onGrid_iff (h : Window.Spans events window) (hevent : event ∈ events) :
    OnGrid window (place window event) ↔
      ∃ other ∈ events, event.start.hourUp ≤ other.finish.hourUp := by
  rw [← h.le_view_bottomRight_iff (fun _ _ => Moment.hourUp_mono), ← Window.lastHour_eq,
    ← row_le_iff]
  constructor
  · exact OnGrid.row_le
  · intro hrow
    obtain ⟨hge, hle⟩ := column_bounds h hevent
    exact ⟨hge, Int.add_le_add_right hle 1, row_ge h hevent, hrow⟩

/-- The last hour reaches the start of an event if some event ends at that time of day or later. -/
theorem shows_of_start_le (h : Window.Spans events window) (hevent : event ∈ events)
    {other : Event} (hother : other ∈ events)
    (hle : event.start.minuteOfDay ≤ other.finish.minuteOfDay) : Shows window event where
  time_ge := (h.topLeft_le hevent).2
  time_le := Nat.le_trans hle (h.le_bottomRight hother).2
  hour_ge := Moment.hour_mono (h.topLeft_le hevent).2
  hour_le := Nat.le_trans (Moment.hour_mono (Nat.le_trans hle (h.le_bottomRight hother).2))
    (Moment.hour_le_hourUp _)
  onGrid := (onGrid_iff h hevent).mpr ⟨other, hother, Moment.hourUp_mono hle⟩

theorem Shows.firstHour_le_lastHour (h : Shows window event) :
    window.firstHour ≤ window.lastHour :=
  Nat.le_trans h.hour_ge h.hour_le

/-- An event that ends on the day on which it starts ends no earlier in the day. -/
theorem minuteOfDay_le_of_day (h : event.finish.day = event.start.day) :
    event.start.minuteOfDay ≤ event.finish.minuteOfDay := by
  have hle := event.start_le_finish
  rw [Moment.number, Moment.number, h] at hle
  omega

/-! ### The grid and its boxes -/

/-- An event over midnight starts below the last hour of its own window, which even lies before the
first hour. -/
theorem not_shows_nightWatch :
    [Event.nightWatch] ≠ [] ∧
      ∃ window, Window.ofEvents? [Event.nightWatch] = some window ∧
        ¬ window.firstHour ≤ window.lastHour ∧
        ¬ Event.nightWatch.start.minuteOfDay ≤ window.bottomRight.minuteOfDay ∧
        ¬ Event.nightWatch.start.hour ≤ window.lastHour ∧
        ¬ (place window Event.nightWatch).row ≤ 100 * window.lastHour := by
  refine ⟨List.cons_ne_nil _ _, Window.ofEvent Event.nightWatch, Window.ofEvents?_cons _ [], ?_⟩
  decide

/-- **The days and the first hour of a grid hold every start.** The last corner and the last hour
hold a start just when some event ends as late in the day. An event that does not go on over
midnight does so itself, and its box stands inside the grid. -/
theorem shows_of_ofEvents? (events : List Event) (h : events ≠ []) :
    ∃ window, Window.ofEvents? events = some window ∧
      (∀ timetable, Timetable.ofEvents? events = some timetable →
        nodes timetable = events.map fun event => boxAt (place window event) event) ∧
      (∀ event ∈ events, window.topLeft.minuteOfDay ≤ event.start.minuteOfDay ∧
        window.firstHour ≤ event.start.hour ∧
        100 * window.firstHour ≤ (place window event).row ∧
        1 ≤ (place window event).column ∧ (place window event).column ≤ window.dayCount) ∧
      (∀ event ∈ events, event.start.minuteOfDay ≤ window.bottomRight.minuteOfDay ↔
        ∃ other ∈ events, event.start.minuteOfDay ≤ other.finish.minuteOfDay) ∧
      (∀ event ∈ events, event.start.hour ≤ window.lastHour ↔
        ∃ other ∈ events, event.start.hour ≤ other.finish.hourUp) ∧
      (∀ event ∈ events, OnGrid window (place window event) ↔
        ∃ other ∈ events, event.start.hourUp ≤ other.finish.hourUp) ∧
      (window.firstHour ≤ window.lastHour ↔
        ∃ event ∈ events, ∃ other ∈ events, event.start.hour ≤ other.finish.hourUp) ∧
      (∀ event ∈ events, ∀ other ∈ events,
        event.start.minuteOfDay ≤ other.finish.minuteOfDay →
          Shows window event ∧ window.firstHour ≤ window.lastHour) ∧
      (∀ event ∈ events, event.finish.day = event.start.day →
        Shows window event ∧ window.firstHour ≤ window.lastHour) := by
  obtain ⟨window, hwindow⟩ := Window.exists_ofEvents? h
  have hspans := Window.spans_of_ofEvents? hwindow
  have hshows : ∀ event ∈ events, ∀ other ∈ events,
      event.start.minuteOfDay ≤ other.finish.minuteOfDay →
        Shows window event ∧ window.firstHour ≤ window.lastHour := by
    intro event hevent other hother hle
    have hevent := shows_of_start_le hspans hevent hother hle
    exact ⟨hevent, hevent.firstHour_le_lastHour⟩
  refine ⟨window, hwindow, fun timetable htimetable => ?_, fun event hevent => ?_,
    fun event _ => hspans.le_view_bottomRight_iff (fun _ _ => id) _,
    fun event _ => hspans.le_view_bottomRight_iff (fun _ _ => Moment.hourUp_mono) _,
    fun event => onGrid_iff hspans, ?_, hshows, fun event hevent hday => ?_⟩
  · have hevents := Timetable.events_of_ofEvents? htimetable
    have hsame : timetable.window = window := by
      have hown := timetable.isWindow
      rw [hevents, hwindow] at hown
      exact (Option.some.inj hown).symm
    rw [nodes, hevents, hsame]
    exact List.map_congr_left fun event _ => node_eq_boxAt window event
  · exact ⟨(hspans.topLeft_le hevent).2, Moment.hour_mono (hspans.topLeft_le hevent).2,
      row_ge hspans hevent, column_bounds hspans hevent⟩
  · rw [Window.lastHour_eq, Window.firstHour,
      hspans.view_topLeft_le_iff (fun _ _ => Moment.hour_mono)]
    simp only [hspans.le_view_bottomRight_iff (fun _ _ => Moment.hourUp_mono)]
  · exact hshows event hevent event hevent (minuteOfDay_le_of_day hday)

theorem shows_of_ofEvents?_breakfast :
    [Event.nightWatch, Event.breakfast] ≠ [] ∧
      ∃ window, Window.ofEvents? [Event.nightWatch, Event.breakfast] = some window ∧
        Shows window Event.breakfast ∧ window.firstHour ≤ window.lastHour ∧
        ¬ OnGrid window (place window Event.nightWatch) := by
  have hne : [Event.nightWatch, Event.breakfast] ≠ [] := List.cons_ne_nil _ _
  obtain ⟨window, hwindow, _, _, _, _, hgrid, _, _, hday⟩ := shows_of_ofEvents? _ hne
  obtain ⟨hshows, hhours⟩ := hday Event.breakfast (by simp) (by decide)
  refine ⟨hne, window, hwindow, hshows, hhours, ?_⟩
  rw [hgrid Event.nightWatch (by simp)]
  decide

end Picture

end Agenda
