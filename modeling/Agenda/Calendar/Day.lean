import Agenda.Calendar.Date
import Agenda.Text.Digit

/-!
# Days

A day of the calendar is held as its number, counted from the first day of year 1, so that order,
distance and ranges of days are those of natural numbers. The date is a view of it.
-/

namespace Agenda

/-- A day between the first day of year 1 and the last day of year 9999, by its number. -/
structure Day where
  number : Nat
  number_lt : number < 3652059
deriving Repr, DecidableEq

namespace Day

/-- The number of days of the calendar. -/
def count : Nat := 3652059

def date (day : Day) : Date := Date.ofNumber day.number

theorem number_lt_of_le {n : Nat} (last : Day) (h : n ≤ last.number) : n < 3652059 :=
  Nat.lt_of_le_of_lt h last.number_lt

/-- The day of a date, if the calendar has it. -/
def ofDate? (date : Date) : Option Day :=
  if date.Valid then
    if h : date.number < 3652059 then some ⟨date.number, h⟩ else none
  else none

/-- The days from `first` to `last`, both of them included. -/
def range (first last : Day) : List Day :=
  (List.range' first.number (last.number + 1 - first.number)).pmap
    (fun n h => ⟨n, number_lt_of_le last h⟩)
    (fun n h => by rw [List.mem_range'_1] at h; omega)

theorem ext {a b : Day} (h : a.number = b.number) : a = b := by
  cases a; cases b; simp_all

def min (a b : Day) : Day := if a.number ≤ b.number then a else b

def max (a b : Day) : Day := if a.number ≤ b.number then b else a

/-- The names of the days of the week, starting with that of the first day of the calendar. -/
def weekdayNames : List Text :=
  ["Monday", "Tuesday", "Wednesday", "Thursday", "Friday", "Saturday", "Sunday"]

def monthNames : List Text :=
  ["January", "February", "March", "April", "May", "June", "July", "August", "September",
    "October", "November", "December"]

def weekdayName (day : Day) : Text := weekdayNames.getD (day.number % 7) []

def monthName (day : Day) : Text := monthNames.getD (day.date.month - 1) []

/-- The heading of a day: `Wednesday, November 6`. -/
def heading (day : Day) : Text :=
  day.weekdayName ++ ", " ++ day.monthName ++ " " ++ Text.ofNat day.date.day

theorem number_range (first last : Day) :
    (range first last).map (·.number) =
      List.range' first.number (last.number + 1 - first.number) := by
  simp [range, List.map_pmap]

end Day

end Agenda
