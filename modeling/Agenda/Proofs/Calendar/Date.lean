import Agenda.Calendar.Day

/-!
# Dates of day numbers

Every day number has a date that the calendar has, and that date has the number again
(`valid_ofNumber`, `number_ofNumber`). The year comes from the two bounds on `yearOf`, the month and
the day from a walk over the months of that year, whose invariant is that the days already walked
over and those still to go make up the same sum. Dates are ordered as their numbers are
(`before_iff_number_lt`), so no two of them have the same one, and the next number is that of the
next date, over the ends of months and years (`ofNumber_succ`).
-/

namespace Agenda

namespace Date

/-! ### Months -/

theorem daysBeforeMonth_succ (year month : Nat) :
    daysBeforeMonth year (month + 2) =
      daysBeforeMonth year (month + 1) + monthLength year (month + 1) := by
  simp only [daysBeforeMonth, Nat.add_sub_cancel, show month + 2 - 1 = month + 1 from rfl,
    List.range'_concat, List.foldl_append, List.foldl_cons, List.foldl_nil]
  rw [Nat.one_mul, Nat.add_comm 1 month]

theorem daysBeforeMonth_end (year : Nat) : daysBeforeMonth year 13 = yearLength year := by
  have hsum : daysBeforeMonth year 13 =
      31 + monthLength year 2 + 31 + 30 + 31 + 30 + 31 + 31 + 30 + 31 + 30 + 31 := by
    simp only [daysBeforeMonth, List.range', List.foldl_cons, List.foldl_nil, monthLength,
      Nat.zero_add]
  rw [hsum, monthLength, yearLength]
  cases isLeapYear year <;> rfl

/-- The walk over the months from `first + 1` on keeps the number of days from the start of the year
to the day that it looks for. -/
theorem inMonths_spec (year : Nat) {first count days : Nat}
    (h : daysBeforeMonth year (first + 1) + days < daysBeforeMonth year (first + 1 + count)) :
    let found := inMonths year (List.range' (first + 1) count) days
    (first + 1 ≤ found.1 ∧ found.1 < first + 1 + count) ∧
      (1 ≤ found.2 ∧ found.2 ≤ monthLength year found.1) ∧
      daysBeforeMonth year found.1 + (found.2 - 1) =
        daysBeforeMonth year (first + 1) + days := by
  induction count generalizing first days with
  | zero =>
    rw [Nat.add_zero] at h
    omega
  | succ count ih =>
    simp only [List.range', inMonths]
    have hnext : daysBeforeMonth year (first + 1 + 1) =
        daysBeforeMonth year (first + 1) + monthLength year (first + 1) :=
      daysBeforeMonth_succ year first
    split
    · rename_i hdays
      exact ⟨⟨Nat.le_refl _, by omega⟩, ⟨Nat.le_add_left .., hdays⟩, rfl⟩
    · rename_i hdays
      have hrest : daysBeforeMonth year (first + 1 + 1) +
          (days - monthLength year (first + 1)) < daysBeforeMonth year (first + 1 + 1 + count) := by
        rw [show first + 1 + 1 + count = first + 1 + (count + 1) by omega]
        omega
      obtain ⟨⟨hlow, hhigh⟩, hday, hsum⟩ := ih hrest
      refine ⟨⟨by omega, by omega⟩, hday, ?_⟩
      rw [hsum]
      omega

/-! ### Years -/

theorem one_le_yearOf (number : Nat) : 1 ≤ yearOf number := by
  have hlt := lt_daysBeforeYear_yearOf number
  rcases Nat.eq_zero_or_pos (yearOf number) with h | h
  · rw [h] at hlt
    exact absurd hlt (Nat.not_lt_zero _)
  · exact h

theorem yearOf_le {number : Nat} (h : number < 3652059) : yearOf number ≤ 9999 := by
  have hle := daysBeforeYear_yearOf_le number
  simp only [daysBeforeYear] at hle
  omega

/-- What is left of a day number behind the start of its year is a day of that year. -/
theorem sub_daysBeforeYear_lt (number : Nat) :
    number - daysBeforeYear (yearOf number) < yearLength (yearOf number) := by
  have hlow := daysBeforeYear_yearOf_le number
  have hhigh := lt_daysBeforeYear_yearOf number
  obtain ⟨y, hy⟩ : ∃ y, yearOf number = y + 1 := ⟨yearOf number - 1, by
    have := one_le_yearOf number
    omega⟩
  rw [hy] at hlow hhigh ⊢
  have hnext := daysBeforeYear_succ y
  rw [show y + 1 + 1 = y + 2 from rfl, hnext] at hhigh
  omega

/-! ### Dates -/

theorem ofNumber_spec (number : Nat) :
    let date := ofNumber number
    (1 ≤ date.month ∧ date.month ≤ 12) ∧
      (1 ≤ date.day ∧ date.day ≤ monthLength date.year date.month) ∧
      daysBeforeMonth date.year date.month + (date.day - 1) =
        number - daysBeforeYear (yearOf number) := by
  have hlt : daysBeforeMonth (yearOf number) (0 + 1) +
      (number - daysBeforeYear (yearOf number)) < daysBeforeMonth (yearOf number) (0 + 1 + 12) := by
    have h := sub_daysBeforeYear_lt number
    rw [← daysBeforeMonth_end] at h
    rwa [show daysBeforeMonth (yearOf number) (0 + 1) = 0 from rfl, Nat.zero_add]
  obtain ⟨⟨hlow, hhigh⟩, hday, hsum⟩ := inMonths_spec (yearOf number) hlt
  refine ⟨⟨hlow, Nat.le_of_lt_succ hhigh⟩, hday, ?_⟩
  rw [show daysBeforeMonth (yearOf number) (0 + 1) = 0 from rfl] at hsum
  exact hsum.trans (Nat.zero_add _)

/-- **Every day number of the calendar has a date of the calendar.** -/
theorem valid_ofNumber {number : Nat} (h : number < 3652059) : (ofNumber number).Valid := by
  obtain ⟨⟨hmonth, hmonth'⟩, ⟨hday, hday'⟩, _⟩ := ofNumber_spec number
  exact ⟨one_le_yearOf number, yearOf_le h, hmonth, hmonth', hday, hday'⟩

/-- **The date of a day number has that number.** -/
theorem number_ofNumber (number : Nat) : (ofNumber number).number = number := by
  obtain ⟨_, _, hsum⟩ := ofNumber_spec number
  have hlow := daysBeforeYear_yearOf_le number
  have hyear : (ofNumber number).year = yearOf number := rfl
  rw [Date.number, hyear]
  rw [hyear] at hsum
  omega

/-! ### Dates in order -/

/-- Whether a date is before another one: by the year, then the month, then the day. -/
def Before (a b : Date) : Prop :=
  a.year < b.year ∨ a.year = b.year ∧ (a.month < b.month ∨ a.month = b.month ∧ a.day < b.day)

instance (a b : Date) : Decidable (Before a b) := inferInstanceAs (Decidable (_ ∨ _))

variable {a b date : Date}

theorem before_or_eq_or_before (a b : Date) : a.Before b ∨ a = b ∨ b.Before a := by
  obtain ⟨year, month, day⟩ := a
  obtain ⟨year', month', day'⟩ := b
  simp only [Before, mk.injEq]
  omega

theorem daysBeforeMonth_le (year : Nat) {month later : Nat} (hpos : 1 ≤ month) (h : month ≤ later) :
    daysBeforeMonth year month ≤ daysBeforeMonth year later := by
  induction h with
  | refl => exact Nat.le_refl _
  | step hle ih =>
    obtain ⟨m, rfl⟩ := Nat.exists_eq_add_of_le' (Nat.le_trans hpos hle)
    exact Nat.le_trans ih (daysBeforeMonth_succ year m ▸ Nat.le_add_right ..)

theorem daysBeforeYear_le {year later : Nat} (hpos : 1 ≤ year) (h : year ≤ later) :
    daysBeforeYear year ≤ daysBeforeYear later := by
  induction h with
  | refl => exact Nat.le_refl _
  | step hle ih =>
    obtain ⟨y, rfl⟩ := Nat.exists_eq_add_of_le' (Nat.le_trans hpos hle)
    exact Nat.le_trans ih (daysBeforeYear_succ y ▸ Nat.le_add_right ..)

/-- A day of a month is before the start of the next month. -/
theorem Valid.lt_daysBeforeMonth (h : date.Valid) :
    daysBeforeMonth date.year date.month + (date.day - 1) <
      daysBeforeMonth date.year (date.month + 1) := by
  obtain ⟨-, -, hmonth, -, hday, hday'⟩ := h
  obtain ⟨m, hm⟩ := Nat.exists_eq_add_of_le' hmonth
  rw [hm] at hday' ⊢
  rw [daysBeforeMonth_succ]
  omega

theorem daysBeforeYear_add_yearLength {year : Nat} (h : 1 ≤ year) :
    daysBeforeYear (year + 1) = daysBeforeYear year + yearLength year := by
  obtain ⟨y, rfl⟩ := Nat.exists_eq_add_of_le' h
  exact daysBeforeYear_succ y

/-- A day of a year is before the start of the next year. -/
theorem Valid.number_lt_daysBeforeYear (h : date.Valid) :
    date.number < daysBeforeYear (date.year + 1) := by
  have hmonth := h.lt_daysBeforeMonth
  have hend := daysBeforeMonth_le date.year (Nat.le_add_left 1 date.month)
    (Nat.succ_le_succ h.2.2.2.1)
  rw [daysBeforeMonth_end] at hend
  rw [daysBeforeYear_add_yearLength h.1, number]
  omega

theorem Valid.number_lt (h : date.Valid) : date.number < 3652059 := by
  have hyears := daysBeforeYear_le (Nat.le_add_left 1 date.year) (Nat.succ_le_succ h.2.1)
  exact Nat.lt_of_lt_of_le h.number_lt_daysBeforeYear hyears

theorem Before.number_lt (h : a.Before b) (ha : a.Valid) : a.number < b.number := by
  obtain hyear | ⟨hyear, hmonth | ⟨hmonth, hday⟩⟩ := h
  · have hnext := daysBeforeYear_le (Nat.le_add_left 1 a.year) hyear
    have hlt := ha.number_lt_daysBeforeYear
    rw [number] at hlt ⊢
    rw [number]
    omega
  · have hnext := daysBeforeMonth_le a.year (Nat.le_add_left 1 a.month) hmonth
    have hlt := ha.lt_daysBeforeMonth
    rw [number, number, ← hyear]
    omega
  · have hpos := ha.2.2.2.2.1
    rw [number, number, hyear, hmonth]
    omega

/-- **The order of dates is that of their numbers.** -/
theorem before_iff_number_lt (ha : a.Valid) (hb : b.Valid) :
    a.Before b ↔ a.number < b.number := by
  refine ⟨fun h => h.number_lt ha, fun h => ?_⟩
  obtain hbefore | rfl | hbehind := before_or_eq_or_before a b
  · exact hbefore
  · exact absurd h (Nat.lt_irrefl _)
  · exact absurd h (Nat.lt_asymm (hbehind.number_lt hb))

/-- Different dates have different numbers. -/
theorem eq_of_number_eq (ha : a.Valid) (hb : b.Valid) (h : a.number = b.number) : a = b := by
  obtain hbefore | heq | hbehind := before_or_eq_or_before a b
  · exact absurd h (Nat.ne_of_lt (hbefore.number_lt ha))
  · exact heq
  · exact absurd h (Nat.ne_of_gt (hbehind.number_lt hb))

/-- **The date with the number of a date is that date.** -/
theorem ofNumber_number (h : date.Valid) : ofNumber date.number = date :=
  eq_of_number_eq (valid_ofNumber h.number_lt) h (number_ofNumber _)

/-! ### The next date -/

/-- The date after a date: the next day of the month, the first of the next month or, behind the
last month, the first of the next year. -/
def next (date : Date) : Date :=
  if date.day < monthLength date.year date.month then { date with day := date.day + 1 }
  else if date.month < 12 then ⟨date.year, date.month + 1, 1⟩
  else ⟨date.year + 1, 1, 1⟩

theorem number_next (h : date.Valid) : date.next.number = date.number + 1 := by
  obtain ⟨hyear, -, hmonth, hmonth', hday, hday'⟩ := h
  obtain ⟨m, hm⟩ := Nat.exists_eq_add_of_le' hmonth
  have hlength := daysBeforeMonth_succ date.year m
  rw [← hm, show m + 2 = date.month + 1 by omega] at hlength
  rw [next]
  split
  · simp only [number]
    omega
  · split
    · simp only [number, hlength]
      omega
    · have hyears := daysBeforeYear_add_yearLength hyear
      have htwelve : date.month + 1 = 13 := by omega
      rw [htwelve, daysBeforeMonth_end] at hlength
      have hstart : daysBeforeMonth (date.year + 1) 1 = 0 := rfl
      simp only [number, hyears, hlength, hstart]
      omega

theorem monthLength_pos (year month : Nat) : 1 ≤ monthLength year month := by
  unfold monthLength
  split
  · split <;> decide
  all_goals decide

theorem valid_next (h : date.Valid) (hlt : date.number + 1 < 3652059) : date.next.Valid := by
  have hnumber := number_next h
  obtain ⟨hyear, hyear', hmonth, hmonth', hday, hday'⟩ := h
  rw [next] at hnumber ⊢
  split
  · rename_i hinside
    exact ⟨hyear, hyear', hmonth, hmonth', Nat.le_add_left .., hinside⟩
  · rename_i hend
    rw [if_neg hend] at hnumber
    split
    · rename_i hinside
      exact ⟨hyear, hyear', Nat.le_add_left .., hinside, Nat.le_refl 1, monthLength_pos ..⟩
    · rename_i hlast
      -- The year behind the last one starts at a number that no day has.
      have hlater : date.year + 1 ≤ 9999 := by
        rw [if_neg hlast] at hnumber
        refine Nat.le_of_not_lt fun hover => ?_
        have hyears : 3652059 ≤ daysBeforeYear (date.year + 1) :=
          daysBeforeYear_le (by decide) hover
        simp only [number] at hnumber
        rw [number] at hlt
        omega
      exact ⟨Nat.le_add_left .., hlater, Nat.le_refl 1, Nat.le_add_left 1 11, Nat.le_refl 1,
        monthLength_pos ..⟩

/-- **The date of the next day number is the next date.** -/
theorem ofNumber_succ {n : Nat} (h : n + 1 < 3652059) : ofNumber (n + 1) = (ofNumber n).next := by
  have hvalid := valid_ofNumber (Nat.lt_of_succ_lt h)
  have hnumber := number_ofNumber n
  have hnext := valid_next hvalid (hnumber.symm ▸ h)
  refine eq_of_number_eq (valid_ofNumber h) hnext ?_
  rw [number_ofNumber, number_next hvalid, hnumber]

end Date

/-! ### Dates of days -/

theorem Day.valid_date (day : Day) : day.date.Valid := Date.valid_ofNumber day.number_lt

/-- **The date of a day is read back as that day.** -/
theorem Day.ofDate?_date (day : Day) : Day.ofDate? day.date = some day := by
  have hnumber : day.date.number = day.number := Date.number_ofNumber day.number
  have hlt : day.date.number < 3652059 := by
    rw [hnumber]
    exact day.number_lt
  rw [Day.ofDate?, if_pos day.valid_date, dif_pos hlt]
  exact congrArg some (Day.ext hnumber)

namespace Day

variable {a b : Day}

/-- **The days are the dates of the calendar.** -/
theorem exists_date_eq {date : Date} (h : date.Valid) : ∃ day : Day, day.date = date :=
  ⟨⟨date.number, h.number_lt⟩, Date.ofNumber_number h⟩

theorem before_date_iff : a.date.Before b.date ↔ a.number < b.number := by
  rw [Date.before_iff_number_lt a.valid_date b.valid_date, date, date, Date.number_ofNumber,
    Date.number_ofNumber]

theorem date_eq_next (h : b.number = a.number + 1) : b.date = a.date.next := by
  have hlt := b.number_lt
  rw [h] at hlt
  rw [date, h, Date.ofNumber_succ hlt]
  rfl

end Day

end Agenda
