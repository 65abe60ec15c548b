import Agenda.Proofs.Timetable.StableSort
import Agenda.Proofs.Timetable.Window

/-!
# The two orders of a timetable

Walking over the days of the window, and on every day over its events by their time of day, visits
the events of a timetable in the order of their starts (`Timetable.flatMap_eventsOn_days`). Both
orders are sorted by the start, so it is enough that they hold the same events, in the same order,
at every single start; there the walk meets no day but that of the start.
-/

namespace Agenda

namespace Timetable

open StableSort

/-- The minutes from the first minute of the calendar to the start of an event. -/
def startNumber (event : Event) : Nat := event.start.number

/-- The minutes from midnight to the start of an event. -/
def startMinute (event : Event) : Nat := event.start.minuteOfDay

variable (timetable : Timetable)

theorem sortedBy_byStart (events : List Event) : SortedBy startNumber (byStart events) :=
  sortedBy_mergeSort startNumber events

theorem atKey_byStart (k : Nat) (events : List Event) :
    atKey startNumber k (byStart events) = atKey startNumber k events :=
  atKey_mergeSort startNumber k events

theorem perm_byStart (events : List Event) : (byStart events).Perm events :=
  List.mergeSort_perm ..

theorem events_of_ofEvents? {events : List Event} {timetable : Timetable}
    (h : ofEvents? events = some timetable) : timetable.events = events := by
  rw [ofEvents?] at h
  split at h
  · cases h
  · rw [← Option.some.inj h]

/-! ### The events of one day -/

theorem perm_eventsOn (day : Day) :
    (timetable.eventsOn day).Perm (timetable.events.filter (·.start.day = day)) :=
  List.mergeSort_perm ..

theorem mem_eventsOn {day : Day} {event : Event} :
    event ∈ timetable.eventsOn day ↔ event ∈ timetable.events ∧ event.start.day = day := by
  rw [(perm_eventsOn timetable day).mem_iff, List.mem_filter, decide_eq_true_iff]

theorem startNumber_of_mem_eventsOn {day : Day} {event : Event}
    (h : event ∈ timetable.eventsOn day) :
    startNumber event = day.number * 1440 + startMinute event := by
  rw [startNumber, Moment.number, ((mem_eventsOn timetable).mp h).2, startMinute]

/-- The events of a day are in the order of their starts. -/
theorem sortedBy_eventsOn (day : Day) : SortedBy startNumber (timetable.eventsOn day) := by
  have hminutes : SortedBy startMinute (timetable.eventsOn day) :=
    sortedBy_mergeSort startMinute _
  refine hminutes.imp_of_mem fun ha hb hle => ?_
  rw [startNumber_of_mem_eventsOn timetable ha, startNumber_of_mem_eventsOn timetable hb]
  exact Nat.add_le_add_left hle _

/-- At a start on a day, the day has the events that the timetable has. -/
theorem atKey_eventsOn (start : Moment) :
    atKey startNumber start.number (timetable.eventsOn start.day) =
      atKey startNumber start.number timetable.events := by
  have hminute : ∀ event : Event,
      startNumber event = start.number ↔
        event.start.day = start.day ∧ startMinute event = start.minuteOfDay := by
    intro event
    constructor
    · intro h
      rw [← Moment.ext_number h]
      exact ⟨rfl, rfl⟩
    · rintro ⟨hday, htime⟩
      rw [startNumber, Moment.number, Moment.number, hday, ← htime, startMinute]
  -- Among the events of one day, the start is as good a key as the time of day.
  calc atKey startNumber start.number (timetable.eventsOn start.day)
      = atKey startMinute start.minuteOfDay (timetable.eventsOn start.day) := by
        refine List.filter_congr fun event hevent => ?_
        rw [decide_eq_decide, hminute]
        exact and_iff_right ((mem_eventsOn timetable).mp hevent).2
    _ = atKey startMinute start.minuteOfDay
          (timetable.events.filter (·.start.day = start.day)) := atKey_mergeSort ..
    _ = atKey startNumber start.number timetable.events := by
        rw [atKey, List.filter_filter]
        refine List.filter_congr fun event _ => ?_
        rw [← Bool.decide_and, decide_eq_decide, hminute, and_comm]

/-- At a start on one day, another day has no events. -/
theorem atKey_eventsOn_of_ne {start : Moment} {day : Day} (h : day ≠ start.day) :
    atKey startNumber start.number (timetable.eventsOn day) = [] := by
  rw [List.eq_nil_iff_forall_not_mem]
  intro event hevent
  obtain ⟨hmem, hstart⟩ := mem_atKey.mp hevent
  have hday := ((mem_eventsOn timetable).mp hmem).2
  rw [Moment.ext_number hstart] at hday
  exact h hday.symm

/-! ### The walk over the days -/

theorem flatMap_eq_of_forall_ne {α β : Type} {l : List α} (hl : l.Nodup) {a : α} (ha : a ∈ l)
    {f : α → List β} (hf : ∀ b ∈ l, b ≠ a → f b = []) : l.flatMap f = f a := by
  obtain ⟨before, after, rfl⟩ := List.append_of_mem ha
  have hnodup := List.perm_middle.nodup_iff.mp hl
  rw [List.nodup_cons, List.mem_append, not_or] at hnodup
  have hbefore : before.flatMap f = [] := by
    rw [List.flatMap_eq_nil_iff]
    intro b hb
    exact hf b (List.mem_append_left _ hb) fun heq => hnodup.1.1 (heq ▸ hb)
  have hafter : after.flatMap f = [] := by
    rw [List.flatMap_eq_nil_iff]
    intro b hb
    exact hf b (List.mem_append_right _ (List.mem_cons_of_mem _ hb))
      fun heq => hnodup.1.2 (heq ▸ hb)
  rw [List.flatMap_append, List.flatMap_cons, hbefore, hafter, List.nil_append, List.append_nil]

theorem nodup_days : timetable.window.days.Nodup :=
  timetable.window.pairwise_days.imp fun hlt heq => Nat.ne_of_lt hlt (congrArg Day.number heq)

theorem mem_flatMap_eventsOn {event : Event} :
    event ∈ timetable.window.days.flatMap timetable.eventsOn ↔ event ∈ timetable.events := by
  rw [List.mem_flatMap]
  constructor
  · rintro ⟨day, _, hevent⟩
    exact ((mem_eventsOn timetable).mp hevent).1
  · intro hevent
    exact ⟨event.start.day, timetable.mem_days_of_mem_events hevent,
      (mem_eventsOn timetable).mpr ⟨hevent, rfl⟩⟩

theorem sortedBy_flatMap_eventsOn :
    SortedBy startNumber (timetable.window.days.flatMap timetable.eventsOn) := by
  refine List.pairwise_flatMap.mpr ⟨fun day _ => sortedBy_eventsOn timetable day, ?_⟩
  refine timetable.window.pairwise_days.imp fun {first second} hlt a ha b hb => ?_
  rw [startNumber_of_mem_eventsOn timetable ha, startNumber_of_mem_eventsOn timetable hb]
  have hminute : startMinute a < 1440 := a.start.minuteOfDay_lt
  omega

theorem atKey_flatMap_eventsOn (k : Nat) :
    atKey startNumber k (timetable.window.days.flatMap timetable.eventsOn) =
      atKey startNumber k timetable.events := by
  by_cases hstart : ∃ event ∈ timetable.events, startNumber event = k
  · obtain ⟨event, hevent, rfl⟩ := hstart
    have hwalk := flatMap_eq_of_forall_ne (nodup_days timetable)
      (timetable.mem_days_of_mem_events hevent)
      fun day _ hne => atKey_eventsOn_of_ne timetable hne
    rw [atKey_flatMap]
    exact hwalk.trans (atKey_eventsOn timetable event.start)
  · -- Nothing starts then, so there is nothing on either side.
    have hnone : ∀ l : List Event, (∀ event ∈ l, event ∈ timetable.events) →
        atKey startNumber k l = [] := by
      intro l hl
      rw [List.eq_nil_iff_forall_not_mem]
      intro event hevent
      obtain ⟨hmem, hk⟩ := mem_atKey.mp hevent
      exact hstart ⟨event, hl event hmem, hk⟩
    rw [hnone _ fun _ => (mem_flatMap_eventsOn timetable).mp, hnone _ fun _ h => h]

/-- **Going through the days of a window and through the events of each day goes through all events
in the order of their starts.** -/
theorem flatMap_eventsOn_days :
    timetable.window.days.flatMap timetable.eventsOn = byStart timetable.events := by
  refine eq_of_atKey_eq (sortedBy_flatMap_eventsOn timetable) (sortedBy_byStart _) fun k => ?_
  rw [atKey_flatMap_eventsOn, atKey_byStart]

end Timetable

end Agenda
