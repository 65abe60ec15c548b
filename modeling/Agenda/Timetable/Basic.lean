import Agenda.Event.Basic
import Agenda.Fault

/-!
# Timetables

A window is a range of days together with a range of hours: what a calendar has to show. Days and
times of day are bounded independently of each other, so that all days share one range of hours. The
window of some events reaches from the earliest day and the earliest time of day at which one starts
to the latest day and the latest time of day at which one ends.

A timetable is a list of events with its window. There is none without events, and that its window
is the window of its events is part of the type.
-/

namespace Agenda

/-! ### Windows -/

namespace Moment

/-- The earlier day together with the earlier time of day. -/
def topLeft (a b : Moment) : Moment :=
  if a.minuteOfDay ≤ b.minuteOfDay then { a with day := Day.min a.day b.day }
  else { b with day := Day.min a.day b.day }

/-- The later day together with the later time of day. -/
def bottomRight (a b : Moment) : Moment :=
  if a.minuteOfDay ≤ b.minuteOfDay then { b with day := Day.max a.day b.day }
  else { a with day := Day.max a.day b.day }

end Moment

/-- A range of days and of hours, by its first and its last corner. -/
structure Window where
  topLeft : Moment
  bottomRight : Moment
deriving Repr, DecidableEq

namespace Window

def firstDay (window : Window) : Day := window.topLeft.day

def lastDay (window : Window) : Day := window.bottomRight.day

/-- The place of a day among the days of a window, from 0; below zero for a day before the first. -/
def dayIndex (window : Window) (day : Day) : Int :=
  (day.number : Int) - (window.firstDay.number : Int)

/-- The number of days from the first to the last, both included; zero or less if the last day is
before the first. -/
def dayCount (window : Window) : Int := window.dayIndex window.lastDay + 1

def days (window : Window) : List Day := Day.range window.firstDay window.lastDay

def firstHour (window : Window) : Nat := window.topLeft.hour

/-- The hour of the last corner, rounded up to a full hour. -/
def lastHour (window : Window) : Nat :=
  window.bottomRight.hour + if window.bottomRight.minute = 0 then 0 else 1

def ofEvent (event : Event) : Window := ⟨event.start, event.finish⟩

/-- The least window that two windows lie in. -/
def join (a b : Window) : Window :=
  ⟨Moment.topLeft a.topLeft b.topLeft, Moment.bottomRight a.bottomRight b.bottomRight⟩

/-- The least window of some events; there is none without events. It grows from the window of the
first event, event by event. -/
def ofEvents? : List Event → Option Window
  | [] => none
  | event :: rest => some (((event :: rest).map ofEvent).foldl join (ofEvent event))

theorem ofEvents?_eq_none {events : List Event} : ofEvents? events = none ↔ events = [] := by
  cases events <;> simp [ofEvents?]

theorem join_self (window : Window) : window.join window = window := by
  obtain ⟨⟨⟨d, hd⟩, m, hm⟩, ⟨⟨e, he⟩, n, hn⟩⟩ := window
  simp [join, Moment.topLeft, Moment.bottomRight, Day.min, Day.max]

end Window

/-! ### Events in a window -/

/-- The events to be shown and their window. -/
structure Timetable where
  events : List Event
  window : Window
  isWindow : Window.ofEvents? events = some window

namespace Timetable

def ofEvents? (events : List Event) : Option Timetable :=
  match h : Window.ofEvents? events with
  | none => none
  | some window => some ⟨events, window, h⟩

/-- Events in the order of their starts; those with equal starts keep their order. -/
def byStart (events : List Event) : List Event :=
  events.mergeSort fun a b => a.start.number ≤ b.start.number

/-- The events that start on a day, in the order of their times. -/
def eventsOn (timetable : Timetable) (day : Day) : List Event :=
  (timetable.events.filter (·.start.day = day)).mergeSort
    fun a b => a.start.minuteOfDay ≤ b.start.minuteOfDay

theorem ofEvents?_eq_none {events : List Event} : ofEvents? events = none ↔ events = [] := by
  rw [← Window.ofEvents?_eq_none]
  simp only [ofEvents?]
  split <;> simp_all

end Timetable

end Agenda
