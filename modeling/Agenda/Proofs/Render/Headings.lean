import Agenda.Proofs.Calendar.Date
import Agenda.Proofs.Render.Grid

/-!
# Days, their places and their headings

The days of a window are numbered by their places, and a picture heads its columns with them. The
day at a place is the one that many days behind the first (`Window.getElem?_days_eq_some_iff`), so
that enumerating the days and asking for the place of a day are inverse to each other, and dates go
from one place to the next as in the calendar (`Window.enumerated_of_not_before`). A box is drawn in
the column at the place of its event's day, hence under the heading of that day
(`Window.enumerated_and_headed`).
-/

namespace Agenda

/-! ### Days of a window -/

/-- **A heading names the day of the week, the month and the day in it**; no day is without names.
-/
theorem Day.exists_heading_eq (day : Day) : ∃ weekday month,
    weekdayNames[day.number % 7]? = some weekday ∧ monthNames[day.date.month - 1]? = some month ∧
      day.heading = weekday ++ ", " ++ month ++ " " ++ Text.ofNat day.date.day := by
  have hweekday : day.number % 7 < weekdayNames.length := Nat.mod_lt _ (by decide)
  have hmonth : day.date.month - 1 < monthNames.length := by
    obtain ⟨-, -, hfirst, hlast, -⟩ := day.valid_date
    have hlength : monthNames.length = 12 := rfl
    omega
  refine ⟨weekdayNames[day.number % 7], monthNames[day.date.month - 1],
    List.getElem?_eq_getElem hweekday, List.getElem?_eq_getElem hmonth, ?_⟩
  unfold heading weekdayName monthName
  rw [List.getD_eq_getElem?_getD, List.getD_eq_getElem?_getD, List.getElem?_eq_getElem hweekday,
    List.getElem?_eq_getElem hmonth, Option.getD_some, Option.getD_some]

theorem Moment.later?_midnight (day : Day) (days : Nat) :
    (midnight day).later? (1440 * days) = (day.later? days).map midnight := by
  have hnumber : (midnight day).number + 1440 * days = (day.number + days) * 1440 := by
    simp only [number, midnight]
    omega
  by_cases h : day.number + days < 3652059
  · have hlt : (midnight day).number + 1440 * days < count := by
      rw [hnumber, count]
      omega
    rw [later?, dif_pos hlt, Day.later?, dif_pos h, Option.map_some]
    congr 1
    refine ext_number ?_
    rw [number_ofNumber, hnumber]
    simp only [number, midnight, Nat.add_zero]
  · have hge : ¬ (midnight day).number + 1440 * days < count := by
      rw [hnumber, count]
      omega
    rw [later?, dif_neg hge, Day.later?, dif_neg h, Option.map_none]

namespace Window

variable {window : Window} {day : Day} {i : Nat}

/-- The days of a window as the moments at which they begin. -/
def midnights (window : Window) : List Moment := window.days.map Moment.midnight

theorem length_days (window : Window) : window.days.length = window.dayCount.toNat := by
  have hlength := congrArg List.length window.map_later?_firstDay
  rw [List.length_map, List.length_map, List.length_range] at hlength
  exact hlength.symm

/-- A window has a day at a place just when it is that many days behind the first one. -/
theorem getElem?_days_eq_some_iff :
    window.days[i]? = some day ↔
      day.number = window.firstDay.number + i ∧ day.number ≤ window.lastDay.number := by
  have hforward : ∀ {other : Day}, window.days[i]? = some other →
      other.number = window.firstDay.number + i ∧ other.number ≤ window.lastDay.number := by
    intro other h
    have hnumber := congrArg (Option.map Day.number) h
    rw [← List.getElem?_map, days, Day.number_range] at hnumber
    obtain ⟨hlt, hvalue⟩ := List.getElem?_eq_some_iff.mp hnumber
    rw [List.length_range'] at hlt
    rw [List.getElem_range', Nat.one_mul] at hvalue
    omega
  refine ⟨hforward, fun h => ?_⟩
  obtain ⟨hnumber, hle⟩ := h
  have hlt : i < window.days.length := by
    rw [length_days, dayCount, dayIndex]
    omega
  have hfound := List.getElem?_eq_getElem hlt
  rw [hfound, Day.ext ((hforward hfound).1.trans hnumber.symm)]

theorem dayIndex_eq_iff :
    window.dayIndex day = i ↔ day.number = window.firstDay.number + i := by
  rw [dayIndex]
  omega

/-- **A day of a window has its place in it**, and the window has that day there. -/
theorem getElem?_dayIndex (hfirst : window.firstDay.number ≤ day.number)
    (hlast : day.number ≤ window.lastDay.number) :
    (0 ≤ window.dayIndex day ∧ window.dayIndex day < window.dayCount) ∧
      window.days[(window.dayIndex day).toNat]? = some day := by
  rw [getElem?_days_eq_some_iff, dayCount]
  simp only [dayIndex]
  omega

/-- The first and the last day of a window stand at its ends. -/
theorem head?_days (h : window.firstDay.number ≤ window.lastDay.number) :
    window.days.head? = some window.firstDay := by
  rw [List.head?_eq_getElem?, getElem?_days_eq_some_iff]
  exact ⟨rfl, h⟩

theorem getLast?_days (h : window.firstDay.number ≤ window.lastDay.number) :
    window.days.getLast? = some window.lastDay := by
  rw [List.getLast?_eq_getElem?, getElem?_days_eq_some_iff, length_days, dayCount, dayIndex]
  omega

end Window

/-! ### Headings over columns -/

namespace Picture

/-- A heading written out: over the middle of a column and half an hour above the line before the
first hour. -/
def headingAt (window : Window) (column : Nat) (heading : Text) : Text :=
  "\n    \\node[anchor=south] at (" ++ Text.ofNat column ++ ".5, " ++
    Text.ofInt ((window.firstHour : Int) - 1) ++ ".5) \x7b" ++ heading ++ "\x7d;"

theorem dayHeader_eq_headingAt (window : Window) (day : Day) (column : Nat) :
    dayHeader window day column = headingAt window column day.heading := by
  have hopen : (".5) \x7b" : Text) = ".5) " ++ "\x7b" := by decide
  have hclose : ("\x7d;" : Text) = "\x7d" ++ ";" := by decide
  unfold dayHeader headingAt braced
  rw [hopen, hclose]
  simp only [List.append_assoc]

/-- The headings of a picture from left to right, each over its own column. -/
theorem getElem?_dayHeaders (window : Window) (i : Nat) :
    (dayHeaders window)[i]? =
      window.days[i]?.map fun day => headingAt window (i + 1) day.heading := by
  rw [dayHeaders, List.getElem?_map, List.getElem?_zipIdx, Option.map_map]
  cases window.days[i]? with
  | none => rfl
  | some day =>
    simp only [Option.map_some, Function.comp_apply, Nat.add_comm 1 i, dayHeader_eq_headingAt]

theorem length_dayHeaders (window : Window) :
    (dayHeaders window).length = window.dayCount.toNat := by
  rw [dayHeaders, List.length_map, List.length_zipIdx, window.length_days]

end Picture

/-- Whether the days of a window are enumerated as the calendar has them, and their places are found
again. -/
structure Window.Enumerated (window : Window) : Prop where
  count_pos : 1 ≤ window.dayCount
  length_eq : (window.midnights.length : Int) = window.dayCount
  head_eq : window.midnights.head? = some (.midnight window.firstDay)
  last_eq : window.midnights.getLast? = some (.midnight window.lastDay)
  /-- Each of them is the first minute of the calendar day after the one before. -/
  next_eq : ∀ i day next, window.midnights[i]? = some day → window.midnights[i + 1]? = some next →
    next.day.date = day.day.date.next ∧ next.minuteOfDay = 0
  /-- None of them is reckoned outside of the calendar. -/
  inside : (List.range window.dayCount.toNat).map
    (fun i => (Moment.midnight window.firstDay).later? (1440 * i)) = window.midnights.map some
  index_eq : ∀ (i : Nat) (day : Moment), window.midnights[i]? = some day →
    window.dayIndex day.day = i
  found : ∀ moment : Moment, ¬ moment.day.date.Before window.firstDay.date →
    ¬ window.lastDay.date.Before moment.day.date →
      (0 ≤ window.dayIndex moment.day ∧ window.dayIndex moment.day < window.dayCount) ∧
        window.midnights[(window.dayIndex moment.day).toNat]? = some (.midnight moment.day)
  /-- No date between the first and the last one is left out. -/
  all_dates : ∀ date : Date, date.Valid → ¬ date.Before window.firstDay.date →
    ¬ window.lastDay.date.Before date → ∃ day ∈ window.midnights, day.day.date = date

namespace Window

theorem getElem?_midnights_eq_some_iff {window : Window} {i : Nat} {moment : Moment} :
    window.midnights[i]? = some moment ↔
      ∃ day, window.days[i]? = some day ∧ Moment.midnight day = moment := by
  rw [midnights, List.getElem?_map, Option.map_eq_some_iff]

/-- **Days and their places are inverse to each other** in every window whose last date is not
before its first one. -/
theorem enumerated_of_not_before {window : Window}
    (h : ¬ window.lastDay.date.Before window.firstDay.date) : window.Enumerated := by
  rw [Day.before_date_iff, Nat.not_lt] at h
  have hpos : 1 ≤ window.dayCount := by
    rw [dayCount, dayIndex]
    omega
  have hfound : ∀ day : Day, ¬ day.date.Before window.firstDay.date →
      ¬ window.lastDay.date.Before day.date →
        (0 ≤ window.dayIndex day ∧ window.dayIndex day < window.dayCount) ∧
          window.midnights[(window.dayIndex day).toNat]? = some (.midnight day) := by
    intro day hfirst hlast
    rw [Day.before_date_iff, Nat.not_lt] at hfirst hlast
    obtain ⟨hplace, hday⟩ := getElem?_dayIndex hfirst hlast
    exact ⟨hplace, getElem?_midnights_eq_some_iff.mpr ⟨day, hday, rfl⟩⟩
  exact {
    count_pos := hpos
    length_eq := by
      rw [midnights, List.length_map, length_days]
      omega
    head_eq := by rw [midnights, List.head?_map, head?_days h, Option.map_some]
    last_eq := by rw [midnights, List.getLast?_map, getLast?_days h, Option.map_some]
    next_eq := by
      intro i first second hfirst hsecond
      obtain ⟨day, hday, rfl⟩ := getElem?_midnights_eq_some_iff.mp hfirst
      obtain ⟨next, hnext, rfl⟩ := getElem?_midnights_eq_some_iff.mp hsecond
      have hnumber := (getElem?_days_eq_some_iff.mp hday).1
      have hnumber' := (getElem?_days_eq_some_iff.mp hnext).1
      have hstep : next.number = day.number + 1 := by omega
      exact ⟨Day.date_eq_next hstep, rfl⟩
    inside := by
      have hdays := congrArg (List.map (Option.map Moment.midnight)) window.map_later?_firstDay
      rw [List.map_map, List.map_map] at hdays
      rw [midnights, List.map_map]
      simp only [Moment.later?_midnight]
      exact hdays
    index_eq := by
      intro i moment hmoment
      obtain ⟨day, hday, rfl⟩ := getElem?_midnights_eq_some_iff.mp hmoment
      exact dayIndex_eq_iff.mpr (getElem?_days_eq_some_iff.mp hday).1
    found := fun moment => hfound moment.day
    all_dates := by
      intro date hvalid hfirst hlast
      obtain ⟨day, rfl⟩ := Day.exists_date_eq hvalid
      exact ⟨.midnight day, List.mem_of_getElem? (hfound day hfirst hlast).2, rfl⟩ }

open Picture in
/-- **The days of a window and their places are inverse to each other**, over the ends of months and
years. So a picture has a heading for every day of its window, and it draws every event in the
column under the heading of the day on which the event starts. -/
theorem enumerated_and_headed :
    (∀ window : Window, ¬ window.lastDay.date.Before window.firstDay.date → window.Enumerated) ∧
      (∀ day : Day, ∃ weekday month,
        Day.weekdayNames[day.number % 7]? = some weekday ∧
          Day.monthNames[day.date.month - 1]? = some month ∧
          day.heading = weekday ++ ", " ++ month ++ " " ++ Text.ofNat day.date.day) ∧
      ∀ timetable : Timetable,
        ¬ timetable.window.lastDay.date.Before timetable.window.firstDay.date ∧
        Picture.ofTimetable timetable =
          hourMarks timetable.window ++ hourLines timetable.window ++ dayLines timetable.window ++
            (dayHeaders timetable.window).flatten ++
            (timetable.events.map (node timetable.window)).flatten ∧
        ((dayHeaders timetable.window).length : Int) = timetable.window.dayCount ∧
        (∀ i, (dayHeaders timetable.window)[i]? = timetable.window.days[i]?.map fun day =>
          headingAt timetable.window (i + 1) day.heading) ∧
        ∀ event ∈ timetable.events, ∃ i : Nat,
          timetable.window.dayIndex event.start.day = i ∧
          node timetable.window event = boxAt (place timetable.window event) event ∧
          Text.ofInt (place timetable.window event).column = Text.ofNat (i + 1) ∧
          (dayHeaders timetable.window)[i]? =
            some (headingAt timetable.window (i + 1) event.start.day.heading) := by
  refine ⟨fun window => enumerated_of_not_before, Day.exists_heading_eq, fun timetable => ?_⟩
  have hpos := dayCount_pos timetable.isWindow
  have hcount := length_dayHeaders timetable.window
  refine ⟨?_, rfl, by omega, fun i => ?_, fun event hevent => ?_⟩
  · rw [Day.before_date_iff]
    rw [dayCount, dayIndex] at hpos
    omega
  · exact getElem?_dayHeaders timetable.window i
  · obtain ⟨hfirst, hlast⟩ := mem_days.mp (timetable.mem_days_of_mem_events hevent)
    obtain ⟨⟨hnonneg, -⟩, hday⟩ := getElem?_dayIndex hfirst hlast
    obtain ⟨i, hi⟩ := Int.eq_ofNat_of_zero_le hnonneg
    refine ⟨i, hi, node_eq_boxAt .., ?_, ?_⟩
    · rw [column_place, column, hi, Text.ofInt, if_neg (by omega)]
      rfl
    · rw [hi, Int.toNat_natCast] at hday
      rw [getElem?_dayHeaders, hday, Option.map_some]

/-- A window over the end of the February of 2000, a leap year. -/
def leapFebruary : Window :=
  ⟨⟨⟨730177, by decide⟩, 540, by decide⟩, ⟨⟨730179, by decide⟩, 600, by decide⟩⟩

theorem enumerated_and_headed_leap :
    ¬ leapFebruary.lastDay.date.Before leapFebruary.firstDay.date ∧ leapFebruary.Enumerated ∧
      leapFebruary.midnights.map (·.day.date) = [⟨2000, 2, 28⟩, ⟨2000, 2, 29⟩, ⟨2000, 3, 1⟩] := by
  have h : ¬ leapFebruary.lastDay.date.Before leapFebruary.firstDay.date := by decide
  exact ⟨h, enumerated_and_headed.1 leapFebruary h, by decide +kernel⟩

end Window

end Agenda
