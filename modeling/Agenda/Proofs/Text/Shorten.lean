import Agenda.Event.Basic

/-!
# Cutting a text to a limit

A limit above the length of the ellipsis bounds the text: what is cut has exactly as many characters
as the limit says (`length_shorten`), and a second cut to a smaller limit leaves nothing of the
first one behind (`shorten_shorten_of_le`). A limit without room for the ellipsis bounds what is
kept of the text, and the ellipsis follows. In both cases a text that was cut is not changed by the
same cut (`shorten_shorten`). The titles in the cells of a calendar are such texts
(`shorten_bounded_and_absorbing`).
-/

namespace Agenda

namespace Text

variable {t : Text} {limit smaller : Nat}

theorem length_ellipsis : ellipsis.length = 3 := rfl

theorem shorten_of_length_le (h : t.length ≤ limit) : shorten t limit = t :=
  if_pos (Int.ofNat_le.mpr h)

theorem takeFront_natCast (count : Nat) (t : Text) : takeFront count t = t.take count :=
  if_pos (Int.natCast_nonneg count)

/-- Where there is room for the ellipsis, it takes the place of the last characters. -/
theorem shorten_of_room (hroom : 3 < limit) (h : limit < t.length) :
    shorten t limit = t.take (limit - 3) ++ ellipsis := by
  have hlong : ¬ (t.length : Int) ≤ limit := by omega
  have hfits : (ellipsis.length : Int) < limit := by
    rw [length_ellipsis]
    omega
  have hfront : (limit : Int) - ellipsis.length = (limit - 3 : Nat) := by
    rw [length_ellipsis]
    omega
  rw [shorten, if_neg hlong, if_pos hfits, hfront, takeFront_natCast]

/-- Where there is no room for it, it follows the characters that are kept. -/
theorem shorten_of_no_room (hroom : limit ≤ 3) (h : limit < t.length) :
    shorten t limit = t.take limit ++ ellipsis := by
  have hlong : ¬ (t.length : Int) ≤ limit := by omega
  have hfull : ¬ (ellipsis.length : Int) < limit := by
    rw [length_ellipsis]
    omega
  rw [shorten, if_neg hlong, if_neg hfull, takeFront_natCast]

theorem length_shorten (hroom : 3 < limit) (t : Text) :
    (shorten t limit).length = min t.length limit := by
  by_cases h : t.length ≤ limit
  · rw [shorten_of_length_le h, Nat.min_eq_left h]
  · rw [shorten_of_room hroom (by omega), List.length_append, List.length_take, length_ellipsis]
    omega

/-- **A cut to a smaller limit leaves nothing behind of the cut before it.** -/
theorem shorten_shorten_of_le (hroom : 3 < smaller) (hle : smaller ≤ limit) (t : Text) :
    shorten (shorten t limit) smaller = shorten t smaller := by
  by_cases h : t.length ≤ limit
  · rw [shorten_of_length_le h]
  · obtain rfl | hlt := Nat.eq_or_lt_of_le hle
    · -- The limits are equal: what was cut fits the limit.
      refine shorten_of_length_le ?_
      rw [length_shorten hroom]
      exact Nat.min_le_right ..
    · -- What the second cut keeps lies in front of the first ellipsis.
      have hfirst : smaller < (shorten t limit).length := by
        rw [length_shorten (by omega)]
        omega
      have hkept : smaller - 3 ≤ (t.take (limit - 3)).length := by
        rw [List.length_take]
        omega
      rw [shorten_of_room hroom hfirst, shorten_of_room hroom (by omega),
        shorten_of_room (by omega) (by omega), List.take_append_of_le_length hkept,
        List.take_take, Nat.min_eq_left (by omega)]

/-- **A text that was cut is not changed by the same cut.** -/
theorem shorten_shorten (t : Text) (limit : Nat) :
    shorten (shorten t limit) limit = shorten t limit := by
  by_cases hroom : 3 < limit
  · exact shorten_shorten_of_le hroom (Nat.le_refl limit) t
  · by_cases h : t.length ≤ limit
    · rw [shorten_of_length_le h, shorten_of_length_le h]
    · have hcut := shorten_of_no_room (Nat.not_lt.mp hroom) (Nat.not_le.mp h)
      -- With the ellipsis the text is too long again, and what the cut keeps is in front of it.
      have hkept : (t.take limit).length = limit := List.length_take_of_le (by omega)
      have hlong : limit < (t.take limit ++ ellipsis).length := by
        rw [List.length_append, hkept, length_ellipsis]
        omega
      rw [hcut, shorten_of_no_room (Nat.not_lt.mp hroom) hlong, List.take_left' hkept]

end Text

namespace Event

variable {event : Event}

/-- A cell that shows no speakers shows the title. -/
theorem cellText_eq_shortTitle (h : ¬(event.kind = .talk ∧ event.speakers ≠ [])) :
    event.cellText = event.shortTitle 30 := by
  cases hkind : event.kind with
  | talk =>
    cases hspeakers : event.speakers with
    | nil =>
      rw [cellText, hkind, hspeakers]
      rfl
    | cons first others =>
      rw [hspeakers] at h
      exact absurd ⟨hkind, List.cons_ne_nil first others⟩ h
  | meal | pause | leisure | transport =>
    rw [cellText, hkind]
    rfl

theorem length_cellText_le (h : ¬(event.kind = .talk ∧ event.speakers ≠ [])) :
    event.cellText.length ≤ 30 := by
  have hlength : (event.shortTitle 30).length = min event.title.length 30 :=
    Text.length_shorten (by decide) event.title
  rw [cellText_eq_shortTitle h, hlength]
  exact Nat.min_le_right ..

end Event

/-- **Cuts are bounded, keep the front of the text, and absorb one another.** A limit above three
bounds the text, its ellipsis included, and is all that counts of this limit and a greater one
before it. A limit up to three bounds the characters in front of the ellipsis, and to cut twice is
to cut once. So cells without speakers hold at most thirty characters, and a title that was cut is
not changed by the same cut. -/
theorem shorten_bounded_and_absorbing (t : Text) :
    (∀ limit smaller : Nat, 3 < smaller → smaller ≤ limit →
        (Text.shorten t limit).length = min t.length limit ∧
          (t.length ≤ limit → Text.shorten t limit = t) ∧
          (limit < t.length → Text.shorten t limit = t.take (limit - 3) ++ "...".toList) ∧
          Text.shorten (Text.shorten t limit) smaller = Text.shorten t smaller) ∧
      (∀ limit : Nat, limit ≤ 3 → limit < t.length →
        Text.shorten t limit = t.take limit ++ "...".toList ∧
          Text.shorten (Text.shorten t limit) limit = Text.shorten t limit) ∧
      ∀ event : Event,
        (∀ limit : Nat, Text.shorten (event.shortTitle limit) limit = event.shortTitle limit) ∧
          (¬(event.kind = .talk ∧ event.speakers ≠ []) →
            event.cellText = event.shortTitle 30 ∧ event.cellText.length ≤ 30 ∧
              ∀ limit : Nat, 30 ≤ limit → Text.shorten event.cellText limit = event.cellText) := by
  refine ⟨?_, ?_, ?_⟩
  · intro limit smaller hroom hle
    have hlimit : 3 < limit := Nat.lt_of_lt_of_le hroom hle
    exact ⟨Text.length_shorten hlimit t, Text.shorten_of_length_le, Text.shorten_of_room hlimit,
      Text.shorten_shorten_of_le hroom hle t⟩
  · intro limit hroom hlong
    exact ⟨Text.shorten_of_no_room hroom hlong, Text.shorten_shorten t limit⟩
  · intro event
    refine ⟨Text.shorten_shorten event.title, fun h => ?_⟩
    have hlength := Event.length_cellText_le h
    exact ⟨Event.cellText_eq_shortTitle h, hlength,
      fun limit hle => Text.shorten_of_length_le (Nat.le_trans hlength hle)⟩

/-- A meal with a host, whose title is too long for a cell. -/
def gardenLunch : Event where
  kind := .meal
  title := "Lunch in the garden of the old library"
  start := ⟨⟨738952, by decide⟩, 721, by decide⟩
  duration := 75
  description := none
  language := none
  speakers := ["Ana"]
  end_lt := by decide

theorem shorten_bounded_and_absorbing_lunch :
    (3 < 8 ∧ 8 ≤ 30 ∧ 30 < gardenLunch.title.length ∧
        Text.shorten gardenLunch.title 30 = "Lunch in the garden of the ...".toList ∧
        Text.shorten (Text.shorten gardenLunch.title 30) 8 = Text.shorten gardenLunch.title 8) ∧
      (2 ≤ 3 ∧ 2 < gardenLunch.title.length ∧
        Text.shorten gardenLunch.title 2 = "Lu...".toList ∧
        Text.shorten (Text.shorten gardenLunch.title 2) 2 = Text.shorten gardenLunch.title 2) ∧
      ¬(gardenLunch.kind = .talk ∧ gardenLunch.speakers ≠ []) ∧
      gardenLunch.cellText.length ≤ 30 ∧
      Text.shorten gardenLunch.cellText 31 = gardenLunch.cellText := by
  obtain ⟨hroom, hno_room, hevents⟩ := shorten_bounded_and_absorbing gardenLunch.title
  have hlong : 30 < gardenLunch.title.length := by decide
  have hkind : ¬(gardenLunch.kind = .talk ∧ gardenLunch.speakers ≠ []) := by decide
  obtain ⟨-, -, hcut, habsorbed⟩ := hroom 30 8 (by decide) (by decide)
  obtain ⟨hshort, hagain⟩ := hno_room 2 (by decide) (by decide)
  obtain ⟨-, hbounded, hkept⟩ := (hevents gardenLunch).2 hkind
  exact ⟨⟨by decide, by decide, hlong, hcut hlong, habsorbed⟩,
    ⟨by decide, by decide, hshort, hagain⟩, hkind, hbounded, hkept 31 (by decide)⟩

end Agenda
