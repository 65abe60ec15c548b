import Agenda.Text.Basic

/-!
# Dates

The Gregorian calendar extended to all years from 1 to 9999. A date is a year, a month and a day of
the month; how many days precede it in its year, and how many precede its year, are plain sums over
the lengths of months and years. Main statements: the year found for a day number is the one whose
days hold it (`daysBeforeYear_yearOf_le`, `lt_daysBeforeYear_yearOf`).
-/

namespace Agenda

/-- A year, a month and a day of the month. -/
structure Date where
  year : Nat
  month : Nat
  day : Nat
deriving Repr, DecidableEq

namespace Date

/-- Every fourth year is a leap year, except the centuries that 400 does not divide. -/
def isLeapYear (year : Nat) : Bool := year % 4 == 0 && (year % 100 != 0 || year % 400 == 0)

/-- The number of days in a month. -/
def monthLength (year month : Nat) : Nat :=
  match month with
  | 2 => if isLeapYear year then 29 else 28
  | 4 | 6 | 9 | 11 => 30
  | _ => 31

/-- The number of days in a year. -/
def yearLength (year : Nat) : Nat := if isLeapYear year then 366 else 365

/-- The days from the start of year 1 to the start of a year. -/
def daysBeforeYear (year : Nat) : Nat :=
  365 * (year - 1) + (year - 1) / 4 - (year - 1) / 100 + (year - 1) / 400

/-- The days from the start of a year to the start of a month. -/
def daysBeforeMonth (year month : Nat) : Nat :=
  (List.range' 1 (month - 1)).foldl (fun days earlier => days + monthLength year earlier) 0

def Valid (date : Date) : Prop :=
  1 ≤ date.year ∧ date.year ≤ 9999 ∧ 1 ≤ date.month ∧ date.month ≤ 12 ∧
    1 ≤ date.day ∧ date.day ≤ monthLength date.year date.month

instance (date : Date) : Decidable date.Valid := inferInstanceAs (Decidable (_ ∧ _))

/-- The number of days from the first day of the calendar to a date. -/
def number (date : Date) : Nat :=
  daysBeforeYear date.year + daysBeforeMonth date.year date.month + (date.day - 1)

/-- The month and the day of the month that `days` days after the start of the first of `months`
fall on. -/
def inMonths (year : Nat) : List Nat → Nat → Nat × Nat
  | [], days => (13, days + 1)
  | month :: months, days =>
    if days < monthLength year month then (month, days + 1)
    else inMonths year months (days - monthLength year month)

/-- The year of a day number. A year has 146097 / 400 days on average, which finds it up to one
year. -/
def yearOf (number : Nat) : Nat :=
  let year := number * 400 / 146097 + 1
  if daysBeforeYear (year + 1) ≤ number then year + 1
  else if number < daysBeforeYear year then year - 1
  else year

def ofNumber (number : Nat) : Date :=
  let year := yearOf number
  let (month, day) := inMonths year (List.range' 1 12) (number - daysBeforeYear year)
  ⟨year, month, day⟩

theorem daysBeforeYear_succ (y : Nat) :
    daysBeforeYear (y + 2) = daysBeforeYear (y + 1) + yearLength (y + 1) := by
  have h100 : y / 100 ≤ y / 4 := by omega
  have e : y + 2 - 1 = y + 1 := by omega
  have e' : y + 1 - 1 = y := by omega
  simp only [daysBeforeYear, e, e', Nat.succ_div, Nat.dvd_iff_mod_eq_zero, yearLength, isLeapYear]
  generalize hq : y / 4 = q at *
  generalize hc : y / 100 = c at *
  generalize y / 400 = f
  by_cases h4 : (y + 1) % 4 = 0 <;> by_cases hc : (y + 1) % 100 = 0 <;>
    by_cases hf : (y + 1) % 400 = 0 <;> simp [h4, hc, hf] <;> omega

theorem daysBeforeYear_yearOf_le (number : Nat) : daysBeforeYear (yearOf number) ≤ number := by
  unfold yearOf
  generalize hy : number * 400 / 146097 = y
  have hlow : y * 146097 ≤ number * 400 := by omega
  have hhigh : number * 400 < (y + 1) * 146097 := by omega
  clear hy
  simp only []
  split
  · assumption
  · split
    · simp only [daysBeforeYear] at *
      omega
    · omega

theorem lt_daysBeforeYear_yearOf (number : Nat) : number < daysBeforeYear (yearOf number + 1) := by
  unfold yearOf
  generalize hy : number * 400 / 146097 = y
  have hlow : y * 146097 ≤ number * 400 := by omega
  have hhigh : number * 400 < (y + 1) * 146097 := by omega
  clear hy
  simp only []
  split
  · simp only [daysBeforeYear] at *
    omega
  · split
    · simp only [daysBeforeYear] at *
      omega
    · omega

end Date

end Agenda
