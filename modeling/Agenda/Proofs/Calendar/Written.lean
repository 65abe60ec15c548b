import Agenda.Calendar.Field
import Agenda.Proofs.Calendar.Date
import Agenda.Proofs.Text.Numeral

/-!
# Written moments are read back

Every moment is read back from its written form (`Moment.ofText?_text`). A reader gives all its
readings of the front of a text; on a part written with leading zeros the first of them takes the
whole part, and first readings in a row are the first reading of the row (`head?_flatMap`).
-/

namespace Agenda

namespace Moment

/-! ### First readings -/

section

variable {α β : Type} {l : List α} {a : α} {b : β}

theorem head?_flatMap {f : α → List β} (hl : l.head? = some a) (hf : (f a).head? = some b) :
    (l.flatMap f).head? = some b := by
  obtain ⟨rest, rfl⟩ := List.head?_eq_some_iff.mp hl
  rw [List.flatMap_cons, List.head?_append, hf]
  rfl

theorem head?_filterMap {f : α → Option β} (hl : l.head? = some a) (hf : f a = some b) :
    (l.filterMap f).head? = some b := by
  obtain ⟨rest, rfl⟩ := List.head?_eq_some_iff.mp hl
  rw [List.filterMap_cons_some hf, List.head?_cons]

end

/-! ### Digits -/

theorem readAny_digit {d : Nat} (h : d < 10) (t : Text) :
    readAny (Nat.digitChar d :: t) = [(d, t)] := by
  rw [readAny, Text.decimalValue?_digitChar h]
  rfl

theorem readPlain_digit {d : Nat} (h : d < 10) (low high : Nat) (t : Text) :
    readPlain low high (Nat.digitChar d :: t) = if low ≤ d ∧ d ≤ high then [(d, t)] else [] := by
  have hdigit : (Nat.digitChar d).isDigit = true := (Text.digitChar_spec d h).2.1
  simp only [readPlain, hdigit, Text.toNat_digitChar h, Nat.add_sub_cancel_left, true_and]

/-- Where either part has a single reading, so has the pair. -/
theorem readTwo_of_singleton {tens units : Text → Readings} {a b : Nat} {s t u : Text}
    (ha : tens s = [(a, t)]) (hb : units t = [(b, u)]) : readTwo tens units s = [(10 * a + b, u)] := by
  simp only [readTwo, ha, List.flatMap_cons, List.flatMap_nil, List.append_nil, hb, List.map_cons,
    List.map_nil]

theorem readTwo_plain_plain {a b : Nat} (ha : a < 10) (hb : b < 10) {low high low' high' : Nat}
    (t : Text) (hin : (low ≤ a ∧ a ≤ high) ∧ low' ≤ b ∧ b ≤ high') :
    readTwo (readPlain low high) (readPlain low' high')
      (Nat.digitChar a :: Nat.digitChar b :: t) = [(10 * a + b, t)] := by
  apply readTwo_of_singleton
  · rw [readPlain_digit ha, if_pos hin.1]
  · rw [readPlain_digit hb, if_pos hin.2]

theorem readTwo_plain_any {a b : Nat} (ha : a < 10) (hb : b < 10) {low high : Nat} (t : Text)
    (hin : low ≤ a ∧ a ≤ high) :
    readTwo (readPlain low high) readAny (Nat.digitChar a :: Nat.digitChar b :: t) =
      [(10 * a + b, t)] := by
  apply readTwo_of_singleton
  · rw [readPlain_digit ha, if_pos hin]
  · exact readAny_digit hb t

/-- A pair of digits is not read where the first one is out of bounds. -/
theorem readTwo_plain_eq_nil {a : Nat} (ha : a < 10) {low high : Nat} (units : Text → Readings)
    (t : Text) (hout : ¬(low ≤ a ∧ a ≤ high)) :
    readTwo (readPlain low high) units (Nat.digitChar a :: t) = [] := by
  rw [readTwo, readPlain_digit ha, if_neg hout, List.flatMap_nil]

/-! ### Parts of a moment -/

theorem readYear_padNat {year : Nat} (h : year < 10000) (t : Text) :
    readYear (Text.padNat 4 year ++ t) = [(year, t)] := by
  have hvalue : 10 * (10 * (10 * (year / 1000) + year / 100 % 10) + year / 10 % 10) + year % 10 =
      year := by omega
  rw [Text.padNat_four h]
  conv_rhs => rw [← hvalue]
  apply readTwo_of_singleton
  · apply readTwo_of_singleton
    · apply readTwo_of_singleton
      · exact readAny_digit (by omega) _
      · exact readAny_digit (by omega) _
    · exact readAny_digit (by omega) _
  · exact readAny_digit (by omega) t

theorem head?_readMonth {month : Nat} (hlow : 1 ≤ month) (hhigh : month ≤ 12) (t : Text) :
    (readMonth (Text.padNat 2 month ++ t)).head? = some (month, t) := by
  rw [Text.padNat_two (by omega), readMonth]
  simp only [List.cons_append, List.nil_append]
  have hvalue : 10 * (month / 10) + month % 10 = month := by omega
  by_cases h : 10 ≤ month
  · rw [readTwo_plain_plain (by omega) (by omega) t (by omega), hvalue]
    rfl
  · rw [readTwo_plain_eq_nil (by omega) _ _ (by omega),
      readTwo_plain_plain (by omega) (by omega) t (by omega), hvalue]
    rfl

theorem head?_readDay {day : Nat} (hlow : 1 ≤ day) (hhigh : day ≤ 31) (t : Text) :
    (readDay (Text.padNat 2 day ++ t)).head? = some (day, t) := by
  rw [Text.padNat_two (by omega), readDay]
  simp only [List.cons_append, List.nil_append]
  have hvalue : 10 * (day / 10) + day % 10 = day := by omega
  by_cases h30 : 30 ≤ day
  · rw [readTwo_plain_plain (by omega) (by omega) t (by omega), hvalue]
    rfl
  · rw [readTwo_plain_eq_nil (by omega) _ _ (by omega)]
    by_cases h10 : 10 ≤ day
    · rw [readTwo_plain_any (by omega) (by omega) t (by omega), hvalue]
      rfl
    · rw [readTwo_plain_eq_nil (by omega) _ _ (by omega),
        readTwo_plain_plain (by omega) (by omega) t (by omega), hvalue]
      rfl

theorem head?_readHour {hour : Nat} (h : hour < 24) (t : Text) :
    (readHour (Text.padNat 2 hour ++ t)).head? = some (hour, t) := by
  rw [Text.padNat_two (by omega), readHour]
  simp only [List.cons_append, List.nil_append]
  have hvalue : 10 * (hour / 10) + hour % 10 = hour := by omega
  by_cases h20 : 20 ≤ hour
  · rw [readTwo_plain_plain (by omega) (by omega) t (by omega), hvalue]
    rfl
  · rw [readTwo_plain_eq_nil (by omega) _ _ (by omega),
      readTwo_plain_any (by omega) (by omega) t (by omega), hvalue]
    rfl

theorem head?_readMinute {minute : Nat} (h : minute < 60) (t : Text) :
    (readMinute (Text.padNat 2 minute ++ t)).head? = some (minute, t) := by
  rw [Text.padNat_two (by omega), readMinute]
  simp only [List.cons_append, List.nil_append]
  rw [readTwo_plain_any (by omega) (by omega) t (by omega),
    show 10 * (minute / 10) + minute % 10 = minute by omega]
  rfl

/-- Behind a single blank only one rest is left. -/
theorem skipBlanks_space {hour : Nat} (h : hour < 100) (t : Text) :
    skipBlanks (' ' :: (Text.padNat 2 hour ++ t)) = [Text.padNat 2 hour ++ t] := by
  have hdigit : Text.isBlank (Nat.digitChar (hour / 10)) = false :=
    Text.isBlank_of_isDigit (Text.isDigit_digitChar (by omega))
  have hnone : skipBlanks (Text.padNat 2 hour ++ t) = [] := by
    rw [Text.padNat_two h, List.cons_append, skipBlanks, hdigit]
    rfl
  rw [skipBlanks, hnone]
  rfl

/-! ### The whole of a moment -/

theorem hour_lt (moment : Moment) : moment.hour < 24 := by
  have := moment.minuteOfDay_lt
  simp only [hour]
  omega

theorem minute_lt (moment : Moment) : moment.minute < 60 := Nat.mod_lt _ (by decide)

theorem monthLength_le (year month : Nat) : Date.monthLength year month ≤ 31 := by
  unfold Date.monthLength
  split
  · split <;> decide
  all_goals decide

theorem head?_cuts_text (moment : Moment) :
    (cuts moment.text).head? = some ⟨moment.day.date, moment.hour, moment.minute⟩ := by
  obtain ⟨_, hyear, hmonth, hmonth', hday, hday'⟩ := moment.day.valid_date
  have hday31 := Nat.le_trans hday' (monthLength_le ..)
  have htext : moment.text = Text.padNat 4 moment.day.date.year ++ '-' ::
      (Text.padNat 2 moment.day.date.month ++ '-' :: (Text.padNat 2 moment.day.date.day ++ ' ' ::
        (Text.padNat 2 moment.hour ++ ':' :: (Text.padNat 2 moment.minute ++ [])))) := by
    simp [text, dateText, clock]
  have hhour := hour_lt moment
  rw [cuts, htext, readYear_padNat (Nat.lt_succ_of_le hyear)]
  refine head?_flatMap rfl ?_
  refine head?_flatMap (head?_readMonth hmonth hmonth' _) ?_
  refine head?_flatMap (head?_readDay hday hday31 _) ?_
  refine head?_flatMap (congrArg List.head? (skipBlanks_space (by omega) _)) ?_
  refine head?_flatMap (head?_readHour hhour _) ?_
  exact head?_filterMap (head?_readMinute (minute_lt moment) []) rfl

/-- **Every moment is read back from its written form.** -/
theorem ofText?_text (moment : Moment) : ofText? moment.text = some moment := by
  have hminutes : moment.hour * 60 + moment.minute = moment.minuteOfDay := by
    simp only [hour, minute]
    omega
  rw [ofText?, head?_cuts_text, Option.bind_some, of?]
  simp only [Day.ofDate?_date, dif_pos (And.intro (hour_lt moment) (minute_lt moment)), hminutes]

/-! ### Blanks and line feeds -/

theorem trim_text (moment : Moment) : Text.trim moment.text = moment.text := by
  have hyear := moment.day.valid_date.2.1
  have hminute := moment.minute_lt
  rw [Text.trim_eq_self_iff, text, dateText, clock,
    Text.padNat_four (Nat.lt_succ_of_le hyear), Text.padNat_two (n := moment.minute) (by omega)]
  constructor
  · intro c hc
    obtain rfl := Option.some.inj hc
    exact Text.isBlank_of_isDigit (Text.isDigit_digitChar (by omega))
  · intro c hc
    simp only [← List.append_assoc, List.getLast?_append, List.getLast?_cons_cons,
      List.getLast?_singleton, Option.some_or, Option.mem_some_iff] at hc
    obtain rfl := hc
    exact Text.isBlank_of_isDigit (Text.isDigit_digitChar (by omega))

theorem newline_not_mem_text (moment : Moment) : '\n' ∉ moment.text := by
  have hpad : ∀ width n, '\n' ∉ Text.padNat width n := fun width n h =>
    absurd (Text.isDigit_of_mem_padNat h) (by decide)
  simp [text, dateText, clock, hpad]

end Moment

end Agenda
