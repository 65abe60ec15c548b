import Agenda.Timetable.Basic

/-!
# The extremes of some events

A window is four numbers: its first and its last day, its earliest and its latest time of day. Every
one of them passes through `Window.join` on its own, as a minimum or a maximum, so that the window
of some events has the four extremes of these events (`Window.ofEvents?_eq_some_iff`) and is settled
by them. Hence neither the order of the events nor how often one is repeated matters, and the window
of two lists together is the join of their windows (`Window.ofEvents?_semilattice`).
-/

namespace Agenda

/-! ### Extremes of lists -/

section Extremes

variable {m n : Nat} {xs ys : List Nat}

/-- An extreme is one of the numbers that it is taken of. -/
theorem exists_of_min?_map {α : Type} {f : α → Nat} {as : List α}
    (h : (as.map f).min? = some m) : ∃ a ∈ as, f a = m :=
  List.mem_map.mp (List.min?_eq_some_iff.mp h).1

theorem exists_of_max?_map {α : Type} {f : α → Nat} {as : List α}
    (h : (as.map f).max? = some m) : ∃ a ∈ as, f a = m :=
  List.mem_map.mp (List.max?_eq_some_iff.mp h).1

theorem min?_congr (h : ∀ a, a ∈ xs ↔ a ∈ ys) : xs.min? = ys.min? := by
  refine Option.ext fun a => ?_
  simp only [List.min?_eq_some_iff, h]

theorem max?_congr (h : ∀ a, a ∈ xs ↔ a ∈ ys) : xs.max? = ys.max? := by
  refine Option.ext fun a => ?_
  simp only [List.max?_eq_some_iff, h]

theorem min?_append (hx : xs.min? = some m) (hy : ys.min? = some n) :
    (xs ++ ys).min? = some (min m n) := by
  rw [List.min?_eq_some_iff] at hx hy ⊢
  obtain ⟨hm, hmle⟩ := hx
  obtain ⟨hn, hnle⟩ := hy
  constructor
  · rw [List.mem_append]
    rcases Nat.le_total m n with hle | hle
    · rw [Nat.min_eq_left hle]
      exact .inl hm
    · rw [Nat.min_eq_right hle]
      exact .inr hn
  · intro a ha
    rcases List.mem_append.mp ha with ha | ha
    · exact Nat.le_trans (Nat.min_le_left m n) (hmle a ha)
    · exact Nat.le_trans (Nat.min_le_right m n) (hnle a ha)

theorem max?_append (hx : xs.max? = some m) (hy : ys.max? = some n) :
    (xs ++ ys).max? = some (max m n) := by
  rw [List.max?_eq_some_iff] at hx hy ⊢
  obtain ⟨hm, hmle⟩ := hx
  obtain ⟨hn, hnle⟩ := hy
  constructor
  · rw [List.mem_append]
    rcases Nat.le_total m n with hle | hle
    · rw [Nat.max_eq_right hle]
      exact .inr hn
    · rw [Nat.max_eq_left hle]
      exact .inl hm
  · intro a ha
    rcases List.mem_append.mp ha with ha | ha
    · exact Nat.le_trans (hmle a ha) (Nat.le_max_left m n)
    · exact Nat.le_trans (hnle a ha) (Nat.le_max_right m n)

end Extremes

/-! ### Corners, number by number -/

namespace Moment

theorem number_dayMin (a b : Day) : (Day.min a b).number = min a.number b.number := by
  rw [Day.min]
  split <;> omega

theorem number_dayMax (a b : Day) : (Day.max a b).number = max a.number b.number := by
  rw [Day.max]
  split <;> omega

variable (a b : Moment)

@[simp] theorem number_day_topLeft :
    (topLeft a b).day.number = min a.day.number b.day.number := by
  rw [topLeft]
  split <;> exact number_dayMin ..

@[simp] theorem number_day_bottomRight :
    (bottomRight a b).day.number = max a.day.number b.day.number := by
  rw [bottomRight]
  split <;> exact number_dayMax ..

@[simp] theorem minuteOfDay_topLeft :
    (topLeft a b).minuteOfDay = min a.minuteOfDay b.minuteOfDay := by
  rw [topLeft]
  split <;> dsimp only <;> omega

@[simp] theorem minuteOfDay_bottomRight :
    (bottomRight a b).minuteOfDay = max a.minuteOfDay b.minuteOfDay := by
  rw [bottomRight]
  split <;> dsimp only <;> omega

variable {a b}

theorem ext_parts (hday : a.day.number = b.day.number) (hminute : a.minuteOfDay = b.minuteOfDay) :
    a = b :=
  ext_number (by rw [number, number, hday, hminute])

theorem number_le_of_parts (hday : a.day.number ≤ b.day.number)
    (hminute : a.minuteOfDay ≤ b.minuteOfDay) : a.number ≤ b.number := by
  rw [number, number]
  omega

end Moment

namespace Window

theorem join_comm (a b : Window) : a.join b = b.join a := by
  rw [join, join, Window.mk.injEq]
  constructor
  · exact Moment.ext_parts (by simp [Nat.min_comm]) (by simp [Nat.min_comm])
  · exact Moment.ext_parts (by simp [Nat.max_comm]) (by simp [Nat.max_comm])

theorem join_assoc (a b c : Window) : (a.join b).join c = a.join (b.join c) := by
  simp only [join, Window.mk.injEq]
  constructor
  · exact Moment.ext_parts (by simp [Nat.min_assoc]) (by simp [Nat.min_assoc])
  · exact Moment.ext_parts (by simp [Nat.max_assoc]) (by simp [Nat.max_assoc])

/-! ### The window of some events -/

/-- Whether each number of a window is the extreme of that number over all events: of the starts for
the first corner, of the ends for the last one. -/
structure Spans (events : List Event) (window : Window) : Prop where
  first_day : (events.map fun event => event.start.day.number).min? =
    some window.topLeft.day.number
  first_time : (events.map fun event => event.start.minuteOfDay).min? =
    some window.topLeft.minuteOfDay
  last_day : (events.map fun event => event.finish.day.number).max? =
    some window.bottomRight.day.number
  last_time : (events.map fun event => event.finish.minuteOfDay).max? =
    some window.bottomRight.minuteOfDay

variable {events others : List Event} {window window' : Window}

/-- A number that passes through `join` passes through the whole growth of a window. -/
theorem view_foldl_join (view : Window → Nat) {op : Nat → Nat → Nat}
    (hview : ∀ a b : Window, view (a.join b) = op (view a) (view b)) (start : Window)
    (events : List Event) :
    view ((events.map ofEvent).foldl join start) =
      (events.map fun event => view (ofEvent event)).foldl op (view start) := by
  rw [List.foldl_map, List.foldl_map]
  exact (List.foldl_hom view fun a event => (hview a (ofEvent event)).symm).symm

/-- Visiting the first event once more changes nothing. -/
theorem ofEvents?_cons (event : Event) (rest : List Event) :
    ofEvents? (event :: rest) = some ((rest.map ofEvent).foldl join (ofEvent event)) := by
  rw [ofEvents?, List.map_cons, List.foldl_cons, join_self]

theorem spans_of_ofEvents? (h : ofEvents? events = some window) : Spans events window := by
  cases events with
  | nil => cases h
  | cons event rest =>
    rw [ofEvents?_cons, Option.some.injEq] at h
    subst h
    constructor
    · rw [List.map_cons, List.min?_cons', view_foldl_join (·.topLeft.day.number)
        fun a b => Moment.number_day_topLeft a.topLeft b.topLeft]
      rfl
    · rw [List.map_cons, List.min?_cons', view_foldl_join (·.topLeft.minuteOfDay)
        fun a b => Moment.minuteOfDay_topLeft a.topLeft b.topLeft]
      rfl
    · rw [List.map_cons, List.max?_cons', view_foldl_join (·.bottomRight.day.number)
        fun a b => Moment.number_day_bottomRight a.bottomRight b.bottomRight]
      rfl
    · rw [List.map_cons, List.max?_cons', view_foldl_join (·.bottomRight.minuteOfDay)
        fun a b => Moment.minuteOfDay_bottomRight a.bottomRight b.bottomRight]
      rfl

/-- The four extremes settle a window. -/
theorem Spans.unique (h : Spans events window) (h' : Spans events window') : window = window' := by
  obtain ⟨topLeft, bottomRight⟩ := window
  obtain ⟨topLeft', bottomRight'⟩ := window'
  rw [Window.mk.injEq]
  constructor
  · exact Moment.ext_parts (Option.some.inj (h.first_day.symm.trans h'.first_day))
      (Option.some.inj (h.first_time.symm.trans h'.first_time))
  · exact Moment.ext_parts (Option.some.inj (h.last_day.symm.trans h'.last_day))
      (Option.some.inj (h.last_time.symm.trans h'.last_time))

/-- **The window of some events is the one with their four extremes.** -/
theorem ofEvents?_eq_some_iff : ofEvents? events = some window ↔ Spans events window := by
  constructor
  · exact spans_of_ofEvents?
  · intro h
    cases hwindow : ofEvents? events with
    | none =>
      rw [ofEvents?_eq_none.mp hwindow] at h
      cases h.first_day
    | some found => rw [(spans_of_ofEvents? hwindow).unique h]

theorem exists_ofEvents? (h : events ≠ []) : ∃ window, ofEvents? events = some window := by
  rw [← Option.ne_none_iff_exists']
  exact fun hnone => h (ofEvents?_eq_none.mp hnone)

/-- Only which events there are counts, not their order nor how often they are repeated. -/
theorem Spans.congr (h : Spans events window)
    (hsame : ∀ event, event ∈ others ↔ event ∈ events) : Spans others window := by
  have hmap : ∀ (f : Event → Nat) (n : Nat), n ∈ others.map f ↔ n ∈ events.map f := by
    intro f n
    simp only [List.mem_map, hsame]
  constructor
  · rw [min?_congr (hmap _)]
    exact h.first_day
  · rw [min?_congr (hmap _)]
    exact h.first_time
  · rw [max?_congr (hmap _)]
    exact h.last_day
  · rw [max?_congr (hmap _)]
    exact h.last_time

theorem Spans.append (h : Spans events window) (h' : Spans others window') :
    Spans (events ++ others) (window.join window') := by
  constructor
  · rw [List.map_append, min?_append h.first_day h'.first_day, join, Moment.number_day_topLeft]
  · rw [List.map_append, min?_append h.first_time h'.first_time, join,
      Moment.minuteOfDay_topLeft]
  · rw [List.map_append, max?_append h.last_day h'.last_day, join,
      Moment.number_day_bottomRight]
  · rw [List.map_append, max?_append h.last_time h'.last_time, join,
      Moment.minuteOfDay_bottomRight]

/-! ### Starts and ends in a window -/

theorem Spans.topLeft_le (h : Spans events window) {event : Event} (hevent : event ∈ events) :
    window.topLeft.day.number ≤ event.start.day.number ∧
      window.topLeft.minuteOfDay ≤ event.start.minuteOfDay :=
  ⟨(List.min?_eq_some_iff.mp h.first_day).2 _ (List.mem_map_of_mem hevent),
    (List.min?_eq_some_iff.mp h.first_time).2 _ (List.mem_map_of_mem hevent)⟩

theorem Spans.le_bottomRight (h : Spans events window) {event : Event} (hevent : event ∈ events) :
    event.finish.day.number ≤ window.bottomRight.day.number ∧
      event.finish.minuteOfDay ≤ window.bottomRight.minuteOfDay :=
  ⟨(List.max?_eq_some_iff.mp h.last_day).2 _ (List.mem_map_of_mem hevent),
    (List.max?_eq_some_iff.mp h.last_time).2 _ (List.mem_map_of_mem hevent)⟩

/-- A measure of the time of day reaches the last corner just when it reaches the end of some event.
-/
theorem Spans.le_view_bottomRight_iff (h : Spans events window) {view : Moment → Nat}
    (hview : ∀ a b : Moment, a.minuteOfDay ≤ b.minuteOfDay → view a ≤ view b) (n : Nat) :
    n ≤ view window.bottomRight ↔ ∃ other ∈ events, n ≤ view other.finish := by
  constructor
  · intro hle
    obtain ⟨other, hother, htime⟩ := exists_of_max?_map h.last_time
    exact ⟨other, hother, Nat.le_trans hle (hview _ _ (Nat.le_of_eq htime.symm))⟩
  · rintro ⟨other, hother, hle⟩
    exact Nat.le_trans hle (hview _ _ (h.le_bottomRight hother).2)

/-- A measure of the time of day at the first corner is the least one at the start of an event. -/
theorem Spans.view_topLeft_le_iff (h : Spans events window) {view : Moment → Nat}
    (hview : ∀ a b : Moment, a.minuteOfDay ≤ b.minuteOfDay → view a ≤ view b) (n : Nat) :
    view window.topLeft ≤ n ↔ ∃ event ∈ events, view event.start ≤ n := by
  constructor
  · intro hle
    obtain ⟨event, hevent, htime⟩ := exists_of_min?_map h.first_time
    exact ⟨event, hevent, Nat.le_trans (hview _ _ (Nat.le_of_eq htime)) hle⟩
  · rintro ⟨event, hevent, hle⟩
    exact Nat.le_trans (hview _ _ (h.topLeft_le hevent).2) hle

theorem Spans.exists_mem (h : Spans events window) : ∃ event, event ∈ events := by
  obtain ⟨event, hevent, _⟩ := exists_of_min?_map h.first_day
  exact ⟨event, hevent⟩

/-- The corners are in order: the first one is not after a start, and the last one is not before the
end that belongs to it. -/
theorem Spans.number_topLeft_le (h : Spans events window) :
    window.topLeft.number ≤ window.bottomRight.number := by
  obtain ⟨event, hevent⟩ := h.exists_mem
  obtain ⟨hfirst, hfirst'⟩ := h.topLeft_le hevent
  obtain ⟨hlast, hlast'⟩ := h.le_bottomRight hevent
  calc window.topLeft.number
      ≤ event.start.number := Moment.number_le_of_parts hfirst hfirst'
    _ ≤ event.finish.number := event.start_le_finish
    _ ≤ window.bottomRight.number := Moment.number_le_of_parts hlast hlast'

/-- **The window of some events is the least one, and taking it is a homomorphism** from lists of
events, where order and repetitions do not count, to windows under `join`. -/
theorem ofEvents?_semilattice (events : List Event) (h : events ≠ []) :
    ∃ window, ofEvents? events = some window ∧ Spans events window ∧
      window.topLeft.number ≤ window.bottomRight.number ∧
      (∀ others, others.Perm events → ofEvents? others = some window) ∧
      (∀ others, (∀ event, event ∈ others ↔ event ∈ events) →
        ofEvents? others = some window) ∧
      (∀ others window', ofEvents? others = some window' →
        ofEvents? (events ++ others) =
          some ⟨Moment.topLeft window.topLeft window'.topLeft,
            Moment.bottomRight window.bottomRight window'.bottomRight⟩) ∧
      (∀ a b c : Window, a.join a = a ∧ a.join b = b.join a ∧
        (a.join b).join c = a.join (b.join c)) := by
  obtain ⟨window, hwindow⟩ := exists_ofEvents? h
  have hspans := spans_of_ofEvents? hwindow
  refine ⟨window, hwindow, hspans, hspans.number_topLeft_le, fun others hperm => ?_,
    fun others hsame => ?_, fun others window' hothers => ?_, fun a b c => ?_⟩
  · exact ofEvents?_eq_some_iff.mpr (hspans.congr fun event => hperm.mem_iff)
  · exact ofEvents?_eq_some_iff.mpr (hspans.congr hsame)
  · exact ofEvents?_eq_some_iff.mpr (hspans.append (spans_of_ofEvents? hothers))
  · exact ⟨join_self a, join_comm a b, join_assoc a b c⟩

end Window

def Event.nightWatch : Event where
  kind := .leisure
  title := "Night watch"
  start := ⟨⟨739195, by decide⟩, 1320, by decide⟩
  duration := 180
  description := none
  language := none
  speakers := []
  end_lt := by decide

/-- A meal on the morning behind it. -/
def Event.breakfast : Event :=
  { Event.nightWatch with
    kind := .meal, start := ⟨⟨739196, by decide⟩, 450, by decide⟩, duration := 30,
    end_lt := by decide }

theorem Window.ofEvents?_semilattice_night :
    [Event.nightWatch, Event.breakfast] ≠ [] ∧
      ∃ window, Window.ofEvents? [Event.nightWatch, Event.breakfast] = some window ∧
        (window.topLeft.number = 739195 * 1440 + 450 ∧
          window.bottomRight.number = 739196 * 1440 + 480) ∧
        Window.ofEvents? [Event.breakfast, Event.nightWatch, Event.breakfast] = some window ∧
        Window.ofEvents? ([Event.nightWatch, Event.breakfast] ++ [Event.nightWatch]) =
          some ⟨Moment.topLeft window.topLeft Event.nightWatch.start,
            Moment.bottomRight window.bottomRight Event.nightWatch.finish⟩ := by
  have hne : [Event.nightWatch, Event.breakfast] ≠ [] := List.cons_ne_nil _ _
  obtain ⟨window, hwindow, hspans, _, _, hsame, happend, _⟩ :=
    Window.ofEvents?_semilattice _ hne
  have hcorners : window.topLeft.number = 739195 * 1440 + 450 ∧
      window.bottomRight.number = 739196 * 1440 + 480 := by
    have hvalue : Window.ofEvents? [Event.nightWatch, Event.breakfast] =
        some ⟨⟨⟨739195, by decide⟩, 450, by decide⟩, ⟨⟨739196, by decide⟩, 480, by decide⟩⟩ := by
      decide
    rw [hwindow, Option.some.injEq] at hvalue
    rw [hvalue]
    exact ⟨rfl, rfl⟩
  refine ⟨hne, window, hwindow, hcorners, hsame _ fun event => ?_,
    happend _ (Window.ofEvent Event.nightWatch) (Window.ofEvents?_cons _ [])⟩
  simp only [List.mem_cons, List.not_mem_nil]
  grind

end Agenda
