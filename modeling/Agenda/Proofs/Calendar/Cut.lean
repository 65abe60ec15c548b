import Agenda.Document.Entry
import Agenda.Proofs.Calendar.Form
import Agenda.Proofs.Calendar.Written

/-!
# Written moments are cut in one way

A cut takes a text apart into a year, a month, a day, a gap, an hour and a minute, each of its form
(`Moment.Cut`). The readers find just the cuts (`Moment.mem_cuts_iff`). No text has two of them
(`Moment.Cut.eq_of_text_eq`): every part goes on as far as its digits do, and what stands behind it
is no digit. And none is found twice, although parts are read in several ways that lead nowhere
(`Moment.length_cuts_le`). Main statement: a date is read just where there is a cut and the calendar
has its date, and then as the numbers of the cut (`Event.readStart_of_cut`).
-/

namespace Agenda

namespace Moment

/-! ### Cuts -/

/-- A text cut into the parts of a moment. -/
@[ext] structure Cut where
  year : Text
  month : Text
  day : Text
  gap : Text
  hour : Text
  minute : Text
  year_fits : Form.year.Fits year
  month_fits : Form.month.Fits month
  day_fits : Form.day.Fits day
  gap_ne_nil : gap ≠ []
  gap_blank : ∀ c ∈ gap, Text.isBlank c = true
  hour_fits : Form.hour.Fits hour
  minute_fits : Form.minute.Fits minute

namespace Cut

def text (cut : Cut) : Text :=
  cut.year ++ '-' :: (cut.month ++ '-' :: (cut.day ++ (cut.gap ++
    (cut.hour ++ ':' :: cut.minute))))

/-- The numbers that the parts write. -/
def fields (cut : Cut) : Fields :=
  ⟨⟨numeral cut.year, numeral cut.month, numeral cut.day⟩, numeral cut.hour, numeral cut.minute⟩

end Cut

theorem mem_readAfter_iff {mark : Char} {part : Text → Readings} {t rest : Text} {n : Nat} :
    (n, rest) ∈ readAfter mark part t ↔ ∃ behind, t = mark :: behind ∧ (n, rest) ∈ part behind := by
  cases t with
  | nil => simp [readAfter]
  | cons c t =>
    rw [readAfter]
    by_cases hc : c = mark
    · subst hc
      simp
    · simp [hc]

/-- What is left behind blanks is what stands behind a run of them, however long. -/
theorem mem_skipBlanks_iff {t rest : Text} : rest ∈ skipBlanks t ↔
    ∃ gap, gap ≠ [] ∧ (∀ c ∈ gap, Text.isBlank c = true) ∧ t = gap ++ rest := by
  induction t with
  | nil => simp [skipBlanks]
  | cons c t ih =>
    rw [skipBlanks]
    constructor
    · intro h
      split at h
      · rename_i hc
        obtain hlonger | hshort := List.mem_append.mp h
        · obtain ⟨gap, -, hblank, rfl⟩ := ih.mp hlonger
          exact ⟨c :: gap, List.cons_ne_nil _ _, List.forall_mem_cons.mpr ⟨hc, hblank⟩, rfl⟩
        · rw [List.mem_singleton.mp hshort]
          exact ⟨[c], List.cons_ne_nil _ _, List.forall_mem_singleton.mpr hc, rfl⟩
      · cases h
    · rintro ⟨gap, hne, hblank, ht⟩
      obtain ⟨d, others, rfl⟩ := List.exists_cons_of_ne_nil hne
      obtain ⟨rfl, rfl⟩ := List.cons.inj ht
      obtain ⟨hc, hothers⟩ := List.forall_mem_cons.mp hblank
      rw [if_pos hc, List.mem_append]
      by_cases hnil : others = []
      · subst hnil
        exact .inr List.mem_cons_self
      · exact .inl (ih.mpr ⟨others, hnil, hothers, rfl⟩)

/-- **The readers find just the cuts.** -/
theorem mem_cuts_iff {t : Text} {fields : Fields} :
    fields ∈ cuts t ↔ ∃ cut : Cut, cut.text = t ∧ cut.fields = fields := by
  simp only [cuts, readYear_eq, readMonth_eq, readDay_eq, readHour_eq, readMinute_eq,
    List.mem_flatMap, List.mem_filterMap, Prod.exists, Form.mem_read_iff, mem_readAfter_iff,
    mem_skipBlanks_iff]
  constructor
  · rintro ⟨_, _, ⟨year, hyear, rfl, rfl⟩, _, _, ⟨_, rfl, month, hmonth, rfl, rfl⟩, _, _,
      ⟨_, rfl, day, hday, rfl, rfl⟩, _, ⟨gap, hne, hblank, rfl⟩, _, _, ⟨hour, hhour, rfl, rfl⟩,
      _, rest, ⟨_, rfl, minute, hminute, rfl, rfl⟩, hend⟩
    split at hend
    · rename_i hempty
      obtain rfl := List.isEmpty_iff.mp hempty
      obtain rfl := Option.some.inj hend
      refine ⟨⟨year, month, day, gap, hour, minute, hyear, hmonth, hday, hne, hblank, hhour,
        hminute⟩, ?_, rfl⟩
      rw [Cut.text, List.append_nil]
    · cases hend
  · rintro ⟨cut, rfl, rfl⟩
    refine ⟨_, _, ⟨cut.year, cut.year_fits, rfl, rfl⟩, _, _, ⟨_, rfl, cut.month, cut.month_fits,
      rfl, rfl⟩, _, _, ⟨_, rfl, cut.day, cut.day_fits, rfl, rfl⟩, _, ⟨cut.gap, cut.gap_ne_nil,
      cut.gap_blank, rfl⟩, _, _, ⟨cut.hour, cut.hour_fits, rfl, rfl⟩, _, [], ⟨_, rfl, cut.minute,
      cut.minute_fits, (List.append_nil _).symm, rfl⟩, rfl⟩

/-! ### No text has two cuts -/

/-- Two texts are cut at one place if both are cut where a kind of characters ends. -/
theorem append_inj_of_stops {p : Char → Bool} {s s' t t' : Text} (h : s ++ t = s' ++ t')
    (hs : ∀ c ∈ s, p c = true) (hs' : ∀ c ∈ s', p c = true) (ht : ∀ c ∈ t.head?, p c = false)
    (ht' : ∀ c ∈ t'.head?, p c = false) : s = s' ∧ t = t' := by
  have hfront : ∀ {front behind : Text}, (∀ c ∈ front, p c = true) →
      (∀ c ∈ behind.head?, p c = false) → (front ++ behind).takeWhile p = front := by
    intro front behind hall hstop
    rw [List.takeWhile_append_of_pos hall]
    cases behind with
    | nil => rw [List.takeWhile_nil, List.append_nil]
    | cons c rest =>
      rw [List.takeWhile_cons_of_neg (Bool.eq_false_iff.mp (hstop c rfl)), List.append_nil]
  have heq : s = s' := by rw [← hfront hs ht, h, hfront hs' ht']
  subst heq
  exact ⟨rfl, List.append_cancel_left h⟩

namespace Cut

theorem isBlank_head_hour (cut : Cut) (rest : Text) :
    ∀ c ∈ (cut.hour ++ rest).head?, Text.isBlank c = false := by
  obtain ⟨first, others, hhour, -⟩ := cut.hour_fits.exists_eq_cons (by decide)
  have hdigits := cut.hour_fits.isDecimal (by decide)
  rw [hhour] at hdigits ⊢
  intro c hc
  obtain rfl := Option.some.inj hc
  exact Text.isBlank_of_isDecimal (hdigits _ List.mem_cons_self)

theorem isDecimal_head_gap (cut : Cut) (rest : Text) :
    ∀ c ∈ (cut.gap ++ rest).head?, Text.isDecimal c = false := by
  obtain ⟨first, others, hgap⟩ := List.exists_cons_of_ne_nil cut.gap_ne_nil
  have hblank := cut.gap_blank
  rw [hgap] at hblank ⊢
  intro c hc
  obtain rfl := Option.some.inj hc
  exact Text.isDecimal_of_isBlank (hblank _ List.mem_cons_self)

/-- **There is at most one way to cut a text.** -/
theorem eq_of_text_eq {cut cut' : Cut} (h : cut.text = cut'.text) : cut = cut' := by
  have hmark : ∀ {mark : Char} (rest : Text), Text.isDecimal mark = false →
      ∀ c ∈ (mark :: rest).head?, Text.isDecimal c = false := by
    intro mark rest hmark c hc
    rwa [← Option.some.inj hc]
  obtain ⟨hyear, h⟩ := append_inj_of_stops h (cut.year_fits.isDecimal (by decide))
    (cut'.year_fits.isDecimal (by decide)) (hmark _ (by decide)) (hmark _ (by decide))
  obtain ⟨hmonth, h⟩ := append_inj_of_stops (List.cons.inj h).2
    (cut.month_fits.isDecimal (by decide)) (cut'.month_fits.isDecimal (by decide))
    (hmark _ (by decide)) (hmark _ (by decide))
  -- A day may begin with a space, which is taken off before its digits are compared.
  obtain ⟨first, others, hday, hdigits⟩ := cut.day_fits.exists_eq_cons (by decide)
  obtain ⟨first', others', hday', hdigits'⟩ := cut'.day_fits.exists_eq_cons (by decide)
  replace h := (List.cons.inj h).2
  rw [hday, hday'] at h
  obtain ⟨hfirst, h⟩ := List.cons.inj h
  obtain ⟨hothers, h⟩ := append_inj_of_stops h hdigits hdigits' (cut.isDecimal_head_gap _)
    (cut'.isDecimal_head_gap _)
  obtain ⟨hgap, h⟩ := append_inj_of_stops h cut.gap_blank cut'.gap_blank
    (cut.isBlank_head_hour _) (cut'.isBlank_head_hour _)
  obtain ⟨hhour, h⟩ := append_inj_of_stops h (cut.hour_fits.isDecimal (by decide))
    (cut'.hour_fits.isDecimal (by decide)) (hmark _ (by decide)) (hmark _ (by decide))
  have hminute := (List.cons.inj h).2
  rw [hfirst, hothers, ← hday'] at hday
  exact Cut.ext hyear hmonth hday hgap hhour hminute

end Cut

/-! ### No cut is found twice -/

section

variable {β : Type} {next : Nat × Text → List β} {c : Char}

/-- A mark in front of a part brings in no more ways to go on. -/
theorem length_flatMap_readAfter_le {mark : Char} {part : Text → Readings}
    (hone : ∀ t, ((part t).flatMap next).length ≤ 1) (t : Text) :
    ((readAfter mark part t).flatMap next).length ≤ 1 := by
  cases t with
  | nil => exact Nat.zero_le 1
  | cons c behind =>
    rw [readAfter]
    split
    · exact hone behind
    · exact Nat.zero_le 1

theorem readAfter_eq_nil {mark : Char} (part : Text → Readings)
    (hmark : Text.isDecimal mark = false) (hdigit : Text.isDecimal c = true) (rest : Text) :
    readAfter mark part (c :: rest) = [] := by
  rw [readAfter, if_neg]
  rintro rfl
  rw [hmark] at hdigit
  cases hdigit

/-- Only behind the longest run of blanks goes anything on that does not begin with a blank. -/
theorem length_flatMap_skipBlanks_le {next : Text → List β}
    (hstops : ∀ c rest, Text.isBlank c = true → next (c :: rest) = [])
    (hone : ∀ t, (next t).length ≤ 1) (t : Text) : ((skipBlanks t).flatMap next).length ≤ 1 := by
  induction t with
  | nil => exact Nat.zero_le 1
  | cons c rest ih =>
    rw [skipBlanks]
    split
    · rw [List.flatMap_append, List.flatMap_singleton]
      cases rest with
      | nil => exact hone []
      | cons d rest =>
        by_cases hblank : Text.isBlank d = true
        · rw [hstops d rest hblank, List.append_nil]
          exact ih
        · rw [skipBlanks, if_neg hblank]
          exact hone (d :: rest)
    · exact Nat.zero_le 1

theorem skipBlanks_eq_nil (hdigit : Text.isDecimal c = true) (rest : Text) :
    skipBlanks (c :: rest) = [] := by
  rw [skipBlanks, Text.isBlank_of_isDecimal hdigit]
  rfl

end

/-- **No cut is found twice**, so the first one that is found is the only one. -/
theorem length_cuts_le (t : Text) : (cuts t).length ≤ 1 := by
  rw [cuts, readYear_eq, readMonth_eq, readDay_eq, readHour_eq, readMinute_eq]
  -- From the year on, each part is read in one way at most that the parts behind it go on from.
  refine Form.length_flatMap_read_le (by decide) ?_ ?_ t
  · intro year c rest hdigit
    exact congrArg (List.flatMap _) (readAfter_eq_nil Form.month.read (by decide) hdigit rest)
  rintro ⟨year, t⟩
  refine length_flatMap_readAfter_le (Form.length_flatMap_read_le (by decide) ?_ ?_) t
  · intro month c rest hdigit
    exact congrArg (List.flatMap _) (readAfter_eq_nil Form.day.read (by decide) hdigit rest)
  rintro ⟨month, t⟩
  refine length_flatMap_readAfter_le (Form.length_flatMap_read_le (by decide) ?_ ?_) t
  · intro day c rest hdigit
    exact congrArg (List.flatMap _) (skipBlanks_eq_nil hdigit rest)
  rintro ⟨day, t⟩
  refine length_flatMap_skipBlanks_le ?_ ?_ t
  · intro c rest hblank
    exact congrArg (List.flatMap _) (Form.read_eq_nil (by decide) hblank rest)
  refine Form.length_flatMap_read_le (by decide) ?_ ?_
  · intro hour c rest hdigit
    exact congrArg (List.filterMap _) (readAfter_eq_nil Form.minute.read (by decide) hdigit rest)
  rintro ⟨hour, t⟩
  simp only [List.filterMap_eq_flatMap_toList]
  refine length_flatMap_readAfter_le (Form.length_flatMap_read_le (by decide) ?_ ?_) t
  · exact fun _ _ _ _ => rfl
  · exact fun _ => Option.length_toList_le

/-! ### The moment of a cut -/

/-- There is a moment for every date of the calendar and every time. -/
theorem exists_of?_eq {date : Date} {hour minute : Nat} (hdate : date.Valid) (hhour : hour < 24)
    (hminute : minute < 60) : ∃ moment, of? date hour minute = some moment ∧
      moment.day.date = date ∧ moment.hour = hour ∧ moment.minute = minute := by
  obtain ⟨day, rfl⟩ := Day.exists_date_eq hdate
  refine ⟨⟨day, hour * 60 + minute, by omega⟩, ?_, rfl, ?_, ?_⟩
  · simp only [of?, Day.ofDate?_date, dif_pos (And.intro hhour hminute)]
  · show (hour * 60 + minute) / 60 = hour
    omega
  · show (hour * 60 + minute) % 60 = minute
    omega

namespace Cut

variable {t : Text}

theorem cuts_text (cut : Cut) : cuts cut.text = [cut.fields] := by
  have hmem : cut.fields ∈ cuts cut.text := mem_cuts_iff.mpr ⟨cut, rfl, rfl⟩
  obtain ⟨fields, hcuts⟩ := List.length_eq_one_iff.mp
    (Nat.le_antisymm (length_cuts_le cut.text) (List.length_pos_of_mem hmem))
  rw [hcuts, List.mem_singleton] at hmem
  rw [hcuts, hmem]

/-- **A text that is cut is the moment of its numbers**, where the calendar has the date. -/
theorem exists_ofText?_eq (cut : Cut) (h : cut.fields.date.Valid) :
    ∃ moment, ofText? cut.text = some moment ∧ moment.day.date = cut.fields.date ∧
      moment.hour = cut.fields.hour ∧ moment.minute = cut.fields.minute := by
  have hhour : cut.fields.hour < 24 := cut.hour_fits.numeral_lt (by decide)
  have hminute : cut.fields.minute < 60 := cut.minute_fits.numeral_lt (by decide)
  rw [ofText?, cuts_text, List.head?_cons, Option.bind_some]
  exact exists_of?_eq h hhour hminute

/-- No other text is a moment. -/
theorem ofText?_eq_none (h : ∀ cut : Cut, cut.text = t → ¬ cut.fields.date.Valid) :
    ofText? t = none := by
  rw [ofText?]
  cases hcuts : cuts t with
  | nil => rfl
  | cons fields rest =>
    obtain ⟨cut, hcut, rfl⟩ := mem_cuts_iff.mp (hcuts ▸ List.mem_cons_self)
    rw [List.head?_cons, Option.bind_some, of?, Day.ofDate?, if_neg (h cut hcut)]

end Cut

end Moment

/-! ### The field with the start -/

namespace Event

/-- **The date of an event is read in one way and completely.** At most one way to cut a value into
the parts of a moment exists, and the ordered search finds it and nothing else. Where there is a cut
whose date the calendar has, the event starts at the moment of the numbers that are written; any
other value is a fault that shows it. And every date from year 1 to year 9999 with every time is
read from its form with leading zeros. -/
theorem readStart_of_cut (value : Text) :
    (∀ cut cut' : Moment.Cut, cut.text = value → cut'.text = value → cut = cut') ∧
      (∀ fields, fields ∈ Moment.cuts value ↔
        ∃ cut : Moment.Cut, cut.text = value ∧ cut.fields = fields) ∧
      (Moment.cuts value).length ≤ 1 ∧
      (∀ header : Header, header.get? "date" = some value →
        (∀ cut : Moment.Cut, cut.text = value → cut.fields.date.Valid →
          ∃ start, readStart header = .ok start ∧ start.day.date = cut.fields.date ∧
            start.hour = cut.fields.hour ∧ start.minute = cut.fields.minute) ∧
        ((∀ cut : Moment.Cut, cut.text = value → ¬ cut.fields.date.Valid) →
          readStart header = .error (.badDate value "%Y-%m-%d %H:%M"))) ∧
      ∀ (date : Date) (hour minute : Nat), date.Valid → hour < 24 → minute < 60 →
        ∃ start : Moment, start.day.date = date ∧ start.hour = hour ∧ start.minute = minute ∧
          ∀ header : Header, header.get? "date" = some (Text.padNat 4 date.year ++ "-" ++
            Text.padNat 2 date.month ++ "-" ++ Text.padNat 2 date.day ++ " " ++
            (Text.padNat 2 hour ++ ":" ++ Text.padNat 2 minute)) →
          readStart header = .ok start := by
  refine ⟨?_, fun fields => Moment.mem_cuts_iff, Moment.length_cuts_le value, ?_, ?_⟩
  · rintro cut cut' rfl htext
    exact Moment.Cut.eq_of_text_eq htext.symm
  · intro header hvalue
    constructor
    · rintro cut rfl hvalid
      obtain ⟨start, hstart, hfields⟩ := cut.exists_ofText?_eq hvalid
      refine ⟨start, ?_, hfields⟩
      rw [readStart, hvalue]
      simp only [hstart]
    · intro hnone
      rw [readStart, hvalue]
      simp only [Moment.Cut.ofText?_eq_none hnone]
      rfl
  · intro date hour minute hdate hhour hminute
    obtain ⟨start, -, rfl, rfl, rfl⟩ := Moment.exists_of?_eq hdate hhour hminute
    refine ⟨start, rfl, rfl, rfl, fun header hvalue => ?_⟩
    change header.get? "date" = some start.text at hvalue
    rw [readStart, hvalue]
    simp only [Moment.ofText?_text]

/-- A cut with digits of two scripts, a space in front of its day, and two kinds of blanks behind
it. -/
def looseCut : Moment.Cut where
  year := "\u0662\u0660\u0662\u0664"
  month := "2"
  day := " 9"
  gap := "\u2003 "
  hour := "1\u0669"
  minute := "5"
  year_fits := ⟨_, List.mem_cons_self, by decide⟩
  month_fits := ⟨[.range '1' '9'], by decide, by decide⟩
  day_fits := ⟨[.range ' ' ' ', .range '1' '9'], by decide, by decide⟩
  gap_ne_nil := by decide
  gap_blank := List.all_eq_true.mp (by decide)
  hour_fits := ⟨[.range '0' '1', .decimal], by decide, by decide⟩
  minute_fits := ⟨[.decimal], by decide, by decide⟩

theorem readStart_of_cut_loose :
    (∃ start, readStart [("date", looseCut.text)] = .ok start ∧
        start.day.date = ⟨2024, 2, 9⟩ ∧ start.hour = 19 ∧ start.minute = 5) ∧
      (∃ start, readStart [("date", "2024-02-09 19:05")] = .ok start ∧
        start.day.date = ⟨2024, 2, 9⟩ ∧ start.hour = 19 ∧ start.minute = 5) ∧
      readStart [("date", "2023-2-29 19:05")] =
        .error (.badDate "2023-2-29 19:05" "%Y-%m-%d %H:%M") := by
  obtain ⟨-, -, -, hloose, hpadded⟩ := readStart_of_cut looseCut.text
  obtain ⟨-, hcuts, -, hmissing, -⟩ := readStart_of_cut "2023-2-29 19:05"
  refine ⟨?_, ?_, ?_⟩
  · have hnumbers : looseCut.fields = ⟨⟨2024, 2, 9⟩, 19, 5⟩ := by decide
    have hread := (hloose [("date", looseCut.text)] rfl).1 looseCut rfl (by decide)
    rwa [hnumbers] at hread
  · obtain ⟨start, hdate, hhour, hminute, hread⟩ :=
      hpadded ⟨2024, 2, 9⟩ 19 5 (by decide) (by decide) (by decide)
    exact ⟨start, hread _ rfl, hdate, hhour, hminute⟩
  · refine (hmissing _ rfl).2 fun cut hcut hvalid => ?_
    have hfields := (hcuts cut.fields).mpr ⟨cut, hcut, rfl⟩
    have honly : Moment.cuts "2023-2-29 19:05" = [⟨⟨2023, 2, 29⟩, 19, 5⟩] := by decide +kernel
    rw [honly, List.mem_singleton] at hfields
    rw [hfields] at hvalid
    exact absurd hvalid (by decide)

end Event

end Agenda
