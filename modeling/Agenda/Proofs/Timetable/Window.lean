import Agenda.Proofs.Timetable.Extremes

/-!
# Days of a window

The days of a window are consecutive and none of them comes twice (`mem_days`, `pairwise_days`), and
the window of some events holds the day on which each of them starts
(`Timetable.mem_days_of_mem_events`), since its first day is the least of the starts and its last
one the greatest of the ends.
-/

namespace Agenda

/-! ### Ranges of days -/

namespace Day

theorem mem_range {first last day : Day} :
    day ∈ range first last ↔ first.number ≤ day.number ∧ day.number ≤ last.number := by
  have hnumbers : day ∈ range first last ↔ day.number ∈ (range first last).map (·.number) := by
    constructor
    · exact List.mem_map_of_mem
    · intro h
      obtain ⟨other, hother, hnumber⟩ := List.mem_map.mp h
      rwa [← ext hnumber]
  rw [hnumbers, number_range, List.mem_range'_1]
  omega

/-- The days of a range ascend. -/
theorem pairwise_range (first last : Day) :
    (range first last).Pairwise fun a b => a.number < b.number := by
  have hnumbers := List.pairwise_lt_range' (s := first.number)
    (n := last.number + 1 - first.number)
  rw [← number_range] at hnumbers
  exact List.pairwise_map.mp hnumbers

end Day

namespace Window

/-! ### The window of some events -/

/-- Whether the days of a window are among those of another one. -/
def Within (inner outer : Window) : Prop :=
  outer.firstDay.number ≤ inner.firstDay.number ∧ inner.lastDay.number ≤ outer.lastDay.number

/-- **The window of some events holds the window of each of them.** -/
theorem within_of_ofEvents? {events : List Event} {window : Window}
    (h : ofEvents? events = some window) : ∀ event ∈ events, (ofEvent event).Within window := by
  intro event hevent
  have hspans := spans_of_ofEvents? h
  exact ⟨(hspans.topLeft_le hevent).1, (hspans.le_bottomRight hevent).1⟩

/-- Whether the corners of a window pair days and times of day of some events, the first corner of
their starts and the last one of their ends. A day and a time of different events may meet. -/
structure CornersFrom (events : List Event) (window : Window) : Prop where
  first_day : ∃ event ∈ events, window.topLeft.day = event.start.day
  first_time : ∃ event ∈ events, window.topLeft.minuteOfDay = event.start.minuteOfDay
  last_day : ∃ event ∈ events, window.bottomRight.day = event.finish.day
  last_time : ∃ event ∈ events, window.bottomRight.minuteOfDay = event.finish.minuteOfDay

/-- **The corners of the window of some events are days and times of these events.** -/
theorem cornersFrom_of_ofEvents? {events : List Event} {window : Window}
    (h : ofEvents? events = some window) : CornersFrom events window := by
  have hspans := spans_of_ofEvents? h
  constructor
  · obtain ⟨event, hevent, hday⟩ := exists_of_min?_map hspans.first_day
    exact ⟨event, hevent, Day.ext hday.symm⟩
  · obtain ⟨event, hevent, htime⟩ := exists_of_min?_map hspans.first_time
    exact ⟨event, hevent, htime.symm⟩
  · obtain ⟨event, hevent, hday⟩ := exists_of_max?_map hspans.last_day
    exact ⟨event, hevent, Day.ext hday.symm⟩
  · obtain ⟨event, hevent, htime⟩ := exists_of_max?_map hspans.last_time
    exact ⟨event, hevent, htime.symm⟩

theorem mem_days {window : Window} {day : Day} :
    day ∈ window.days ↔
      window.firstDay.number ≤ day.number ∧ day.number ≤ window.lastDay.number :=
  Day.mem_range

theorem pairwise_days (window : Window) :
    window.days.Pairwise fun a b => a.number < b.number :=
  Day.pairwise_range ..

end Window

theorem Event.day_start_le_day_finish (event : Event) :
    event.start.day.number ≤ event.finish.day.number := by
  have hle := event.start_le_finish
  have hstart := event.start.minuteOfDay_lt
  have hfinish := event.finish.minuteOfDay_lt
  simp only [Moment.number] at hle
  omega

/-! ### Reckoning in the calendar -/

/-- The moment a number of minutes later, if the calendar has it. -/
def Moment.later? (moment : Moment) (minutes : Nat) : Option Moment :=
  if h : moment.number + minutes < count then some (.ofNumber (moment.number + minutes) h) else none

/-- The day a number of days later, if the calendar has it. -/
def Day.later? (day : Day) (days : Nat) : Option Day :=
  if h : day.number + days < 3652059 then some ⟨day.number + days, h⟩ else none

/-- The end of an event is reckoned inside the calendar. -/
theorem Event.later?_start (event : Event) :
    event.start.later? event.duration = some event.finish :=
  dif_pos event.end_lt

/-- **The days of a window are reckoned inside the calendar**, one by one from the first. -/
theorem Window.map_later?_firstDay (window : Window) :
    (List.range window.dayCount.toNat).map window.firstDay.later? = window.days.map some := by
  have hcount : window.dayCount.toNat = window.lastDay.number + 1 - window.firstDay.number := by
    rw [dayCount, dayIndex]
    omega
  rw [hcount, days, Day.range]
  refine List.ext_getElem (by simp) fun i hleft hright => ?_
  have hlast : window.firstDay.number + i < 3652059 := by
    have hlt := window.lastDay.number_lt
    rw [List.length_map, List.length_range] at hleft
    omega
  simp [Day.later?, hlast]

theorem Window.dayCount_pos {events : List Event} {window : Window}
    (h : ofEvents? events = some window) : 0 < window.dayCount := by
  cases events with
  | nil => cases h
  | cons event rest =>
    have hwithin := within_of_ofEvents? h event List.mem_cons_self
    have hfirst : window.firstDay.number ≤ event.start.day.number := hwithin.1
    have hlast : event.finish.day.number ≤ window.lastDay.number := hwithin.2
    have hevent := event.day_start_le_day_finish
    rw [dayCount, dayIndex]
    omega

/-! ### Timetables -/

/-- **An event starts on a day of the window of its timetable.** -/
theorem Timetable.mem_days_of_mem_events (timetable : Timetable) {event : Event}
    (h : event ∈ timetable.events) : event.start.day ∈ timetable.window.days := by
  obtain ⟨hfirst, hlast⟩ := Window.within_of_ofEvents? timetable.isWindow event h
  exact Window.mem_days.mpr ⟨hfirst, Nat.le_trans event.day_start_le_day_finish hlast⟩

end Agenda
