import Agenda.Calendar.Day

/-!
# Moments

A moment is a minute of a day of the calendar. Moments are counted from the first minute of year 1;
adding a number of minutes that leads past the last minute of year 9999 gives nothing.
-/

namespace Agenda

/-- A day and a minute of that day. -/
structure Moment where
  day : Day
  minuteOfDay : Nat
  minuteOfDay_lt : minuteOfDay < 1440
deriving Repr, DecidableEq

namespace Moment

/-- The number of minutes of the calendar. -/
def count : Nat := 5258964960

def hour (moment : Moment) : Nat := moment.minuteOfDay / 60

def minute (moment : Moment) : Nat := moment.minuteOfDay % 60

/-- The minutes from the first minute of the calendar to a moment. -/
def number (moment : Moment) : Nat := moment.day.number * 1440 + moment.minuteOfDay

def ofNumber (n : Nat) (h : n < count) : Moment :=
  ⟨⟨n / 1440, by simp only [count] at h; omega⟩, n % 1440, Nat.mod_lt n (by decide)⟩

def midnight (day : Day) : Moment := ⟨day, 0, by decide⟩

/-- The moment on a date at an hour and minute, if there is one. -/
def of? (date : Date) (hour minute : Nat) : Option Moment :=
  match Day.ofDate? date with
  | none => none
  | some day =>
    if h : hour < 24 ∧ minute < 60 then some ⟨day, hour * 60 + minute, by omega⟩ else none

@[simp] theorem number_ofNumber (n : Nat) (h : n < count) : (ofNumber n h).number = n := by
  simp only [number, ofNumber]
  omega

theorem ext_number {a b : Moment} (h : a.number = b.number) : a = b := by
  obtain ⟨⟨d, hd⟩, m, hm⟩ := a
  obtain ⟨⟨e, he⟩, n, hn⟩ := b
  simp only [number] at h
  have hde : d = e := by omega
  subst hde
  have hmn : m = n := by omega
  subst hmn
  rfl

/-- The hour and the minute with two digits each: `09:05`. -/
def clock (moment : Moment) : Text :=
  Text.padNat 2 moment.hour ++ ":" ++ Text.padNat 2 moment.minute

/-- A date with a year of four digits: `2024-11-06`. -/
def dateText (moment : Moment) : Text :=
  let date := moment.day.date
  Text.padNat 4 date.year ++ "-" ++ Text.padNat 2 date.month ++ "-" ++ Text.padNat 2 date.day

/-- A moment as a document writes it: `2024-11-06 09:05`. -/
def text (moment : Moment) : Text := moment.dateText ++ " " ++ moment.clock

end Moment

end Agenda
