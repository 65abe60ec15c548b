import Agenda.Proofs.Pipeline.Course
import Agenda.Proofs.Render.Columns
import Agenda.Proofs.Render.Compile

/-!
# Rearranging the events

The order in which events are given matters only among events with the same start. If it is kept
there, all else may be rearranged (`Rearranged`): the window and the events of every day stay, hence
so do the pages and the booklets, and of a picture only the order of the boxes changes
(`rendered_rearranged`).
-/

namespace Agenda

open StableSort Timetable

/-- Whether two lists hold the same events and those with the same start in the same order. -/
structure Rearranged (events others : List Event) : Prop where
  perm : events.Perm others
  same_start : ∀ start : Moment,
    events.filter (·.start = start) = others.filter (·.start = start)

/-! ### Timetables -/

/-- Nothing starts at a number that is no moment of the calendar. -/
theorem atKey_startNumber_eq_nil {k : Nat} (h : ¬ ∃ start : Moment, start.number = k)
    (events : List Event) : atKey startNumber k events = [] := by
  rw [List.eq_nil_iff_forall_not_mem]
  intro event hevent
  exact h ⟨event.start, (mem_atKey.mp hevent).2⟩

variable {events others : List Event} {timetable timetable' : Timetable}

theorem Rearranged.atKey_startNumber (h : Rearranged events others) (k : Nat) :
    atKey startNumber k events = atKey startNumber k others := by
  by_cases hk : ∃ start : Moment, start.number = k
  · obtain ⟨start, rfl⟩ := hk
    have hstart : ∀ l : List Event,
        atKey startNumber start.number l = l.filter (·.start = start) := by
      intro l
      refine List.filter_congr fun event _ => ?_
      rw [decide_eq_decide]
      exact ⟨Moment.ext_number, congrArg Moment.number⟩
    rw [hstart, hstart, h.same_start]
  · rw [atKey_startNumber_eq_nil hk, atKey_startNumber_eq_nil hk]

namespace Timetable

/-- What a day holds at a start is settled by what the timetable holds there. -/
theorem eventsOn_congr
    (h : ∀ k, atKey startNumber k timetable.events = atKey startNumber k timetable'.events)
    (day : Day) : timetable.eventsOn day = timetable'.eventsOn day := by
  refine eq_of_atKey_eq (sortedBy_eventsOn timetable day) (sortedBy_eventsOn timetable' day)
    fun k => ?_
  by_cases hk : ∃ start : Moment, start.number = k
  · obtain ⟨start, rfl⟩ := hk
    by_cases hday : day = start.day
    · subst hday
      rw [atKey_eventsOn, atKey_eventsOn, h]
    · rw [atKey_eventsOn_of_ne timetable hday, atKey_eventsOn_of_ne timetable' hday]
  · rw [atKey_startNumber_eq_nil hk, atKey_startNumber_eq_nil hk]

theorem byStart_congr (h : ∀ k, atKey startNumber k events = atKey startNumber k others) :
    byStart events = byStart others := by
  refine eq_of_atKey_eq (sortedBy_byStart events) (sortedBy_byStart others) fun k => ?_
  rw [atKey_byStart, atKey_byStart, h]

theorem window_congr (h : timetable.events.Perm timetable'.events) :
    timetable.window = timetable'.window := by
  have hspans := Window.spans_of_ofEvents? timetable.isWindow
  have hspans' := Window.spans_of_ofEvents? timetable'.isWindow
  exact (hspans.congr fun event => h.symm.mem_iff).unique hspans'

theorem exists_ofEvents? (h : events ≠ []) :
    ∃ timetable : Timetable, ofEvents? events = some timetable ∧ timetable.events = events := by
  cases hlayout : ofEvents? events with
  | none => exact absurd (ofEvents?_eq_none.mp hlayout) h
  | some timetable => exact ⟨timetable, rfl, events_of_ofEvents? hlayout⟩

end Timetable

/-! ### Renderings -/

variable (h : Rearranged timetable.events timetable'.events)
include h

theorem Page.ofTimetable_congr [Converter] (dayMinutes : Int) :
    Page.ofTimetable dayMinutes timetable = Page.ofTimetable dayMinutes timetable' := by
  have hdays : timetable.eventsOn = timetable'.eventsOn :=
    funext (eventsOn_congr h.atKey_startNumber)
  rw [Page.ofTimetable, Page.ofTimetable, window_congr h.perm, hdays]

theorem Booklet.bindings_congr : Booklet.bindings timetable = Booklet.bindings timetable' := by
  rw [Booklet.bindings, Booklet.bindings, window_congr h.perm, Booklet.ofTimetable,
    Booklet.ofTimetable, byStart_congr h.atKey_startNumber]

theorem Picture.sizeNote_congr : Picture.sizeNote timetable = Picture.sizeNote timetable' := by
  have hlength := h.perm.length_eq
  have hwindow := window_congr h.perm
  unfold Picture.sizeNote
  rw [hlength, hwindow]

theorem Page.apply_congr [Converter] (options : Page.Options) :
    Page.stage.apply options timetable = Page.stage.apply options timetable' := by
  have hpage := Page.ofTimetable_congr h options.dayMinutes
  rw [Page.apply_eq, Page.apply_eq, Page.fillLoaded, Page.fillLoaded, hpage]

theorem Booklet.apply_congr (path : Option Text) :
    Booklet.stage.apply path timetable = Booklet.stage.apply path timetable' := by
  rw [Booklet.apply_eq, Booklet.apply_eq, Booklet.bindings_congr h]

omit h

/-! ### Pictures -/

namespace Picture

variable {path : Option Text} {world after : World}

/-- In a template that has been read, a picture fails only for the placeholder. -/
theorem apply_of_load (timetable : Timetable) {template : Text}
    (hload : Template.load path "template_tikz.tex" world = (.ok template, after)) :
    Picture.stage.apply path timetable world =
      (if Text.occursIn (Template.placeholder "CALENDAR") template then
          .ok (Text.replaceAll (Template.placeholder "CALENDAR") (ofTimetable timetable) template)
        else .error (.fault (.missingPlaceholder (Template.placeholder "CALENDAR"))),
        Journal.note ⟨.debug, sizeNote timetable⟩ after) := by
  rw [apply_eq, Action.bind_of_ok hload, Template.fill]
  split <;> rfl

theorem apply_of_load_error (timetable : Timetable) {trouble : Trouble}
    (hload : Template.load path "template_tikz.tex" world = (.error trouble, after)) :
    Picture.stage.apply path timetable world = (.error trouble, after) := by
  rw [apply_eq, Action.bind_of_error hload]

/-- Pictures of rearranged events are made in the same template and leave the same world, or are
both not made, and then the reason is the same. -/
theorem run_rearranged [Converter] (h : Rearranged timetable.events timetable'.events)
    (options : Page.Options)
    (world : World) :
    (∃ template after,
      (renderer .picture options).run timetable world =
        (.ok (.success (Text.replaceAll (Template.placeholder "CALENDAR") (ofTimetable timetable)
          template)), after) ∧
      (renderer .picture options).run timetable' world =
        (.ok (.success (Text.replaceAll (Template.placeholder "CALENDAR") (ofTimetable timetable')
          template)), after)) ∨
    ((∀ text after,
        (renderer .picture options).run timetable world ≠ (.ok (.success text), after)) ∧
      (renderer .picture options).run timetable world =
        (renderer .picture options).run timetable' world) := by
  cases hload : Template.load options.template "template_tikz.tex"
      (Journal.note Picture.stage.startNote world) with
  | mk result after =>
    cases result with
    | error trouble =>
      have happly := apply_of_load_error timetable hload
      have happly' := apply_of_load_error timetable' hload
      exact .inr ⟨Pipeline.run_cons_ne_success happly,
        Pipeline.run_cons_congr (happly.trans happly'.symm)⟩
    | ok template =>
      have happly := apply_of_load timetable hload
      have happly' := apply_of_load timetable' hload
      rw [← sizeNote_congr h] at happly'
      by_cases hoccurs : Text.occursIn (Template.placeholder "CALENDAR") template
      · rw [if_pos hoccurs] at happly happly'
        exact .inl ⟨template, _, Pipeline.run_cons_of_ok happly, Pipeline.run_cons_of_ok happly'⟩
      · rw [if_neg hoccurs] at happly happly'
        exact .inr ⟨Pipeline.run_cons_ne_success happly,
          Pipeline.run_cons_congr (happly.trans happly'.symm)⟩

end Picture

/-! ### From events to a rendering -/

/-- The pipeline from events to their rendering. -/
def rendered [Converter] (format : Format) (options : Page.Options) :
    Pipeline World Trouble (List Event) Text :=
  .cons Timetable.stage none (renderer format options)

theorem rendered_run [Converter] (h : Timetable.ofEvents? events = some timetable) (format : Format)
    (options : Page.Options) (world : World) :
    (rendered format options).run events world =
      (renderer format options).run timetable (Journal.note Timetable.stage.startNote world) :=
  Pipeline.run_cons_of_ok (apply_of_ofEvents? h _)

/-- **The order of the events does not matter**, but for that of events with the same start. Laid
out and rendered, rearranged events give the same page and the same booklet, down to what is noted
and to how either fails; and their pictures are both made or fail alike, in the same template and
with the same grid and headings of days, and have the same boxes up to their order. -/
theorem rendered_rearranged [Converter] (hne : events ≠ []) (h : Rearranged events others) :
    (∀ options world, (rendered .page options).run events world =
        (rendered .page options).run others world) ∧
      (∀ options world, (rendered .booklet options).run events world =
        (rendered .booklet options).run others world) ∧
      ∃ window, Window.ofEvents? events = some window ∧ Window.ofEvents? others = some window ∧
        (events.map (Picture.node window)).Perm (others.map (Picture.node window)) ∧
        ∀ options world,
          (∃ template after,
            (rendered .picture options).run events world =
              (.ok (.success (Text.replaceAll (Template.placeholder "CALENDAR")
                (Picture.grid window ++ (events.map (Picture.node window)).flatten)
                template)), after) ∧
            (rendered .picture options).run others world =
              (.ok (.success (Text.replaceAll (Template.placeholder "CALENDAR")
                (Picture.grid window ++ (others.map (Picture.node window)).flatten)
                template)), after)) ∨
          ((∀ text after,
              (rendered .picture options).run events world ≠ (.ok (.success text), after)) ∧
            (rendered .picture options).run events world =
              (rendered .picture options).run others world) := by
  have hne' : others ≠ [] := fun hnil => hne (h.perm.trans (hnil ▸ .nil)).eq_nil
  obtain ⟨timetable, hlayout, rfl⟩ := exists_ofEvents? hne
  obtain ⟨timetable', hlayout', rfl⟩ := exists_ofEvents? hne'
  have hwindow := window_congr h.perm
  have hnodes := h.perm.map (Picture.node timetable.window)
  refine ⟨fun options world => ?_, fun options world => ?_, timetable.window, timetable.isWindow,
    hwindow ▸ timetable'.isWindow, hnodes, fun options world => ?_⟩
  · rw [rendered_run hlayout, rendered_run hlayout']
    exact Pipeline.run_cons_congr (congrFun (Page.apply_congr h _) _)
  · rw [rendered_run hlayout, rendered_run hlayout']
    exact Pipeline.run_cons_congr (congrFun (Booklet.apply_congr h _) _)
  · rw [rendered_run hlayout, rendered_run hlayout']
    have hpictures := Picture.run_rearranged h options
      (Journal.note Timetable.stage.startNote world)
    rwa [Picture.ofTimetable, Picture.ofTimetable, Picture.nodes, Picture.nodes, ← hwindow]
      at hpictures

def Event.breakfastTalk : Event := { Event.breakfast with kind := .talk }

section

attribute [local instance] Converter.paragraph

theorem rendered_rearranged_breakfast :
    ([.nightWatch, .breakfast, .breakfastTalk] : List Event) ≠ [] ∧
      Rearranged [.nightWatch, .breakfast, .breakfastTalk]
        [.breakfast, .breakfastTalk, .nightWatch] ∧
      (rendered .page {}).run [.nightWatch, .breakfast, .breakfastTalk]
          (World.ofDisk .empty []) =
        (rendered .page {}).run [.breakfast, .breakfastTalk, .nightWatch]
          (World.ofDisk .empty []) := by
  have hne : ([.nightWatch, .breakfast, .breakfastTalk] : List Event) ≠ [] :=
    List.cons_ne_nil _ _
  have hstarts : Event.nightWatch.start ≠ Event.breakfast.start := by decide
  have hrearranged : Rearranged [.nightWatch, .breakfast, .breakfastTalk]
      [.breakfast, .breakfastTalk, .nightWatch] := by
    constructor
    · exact (List.Perm.swap ..).trans ((List.Perm.swap ..).cons _)
    · intro start
      have htalk : Event.breakfastTalk.start = Event.breakfast.start := rfl
      by_cases hnight : Event.nightWatch.start = start
      · subst hnight
        simp [htalk, hstarts.symm]
      · simp [htalk, hnight, List.filter_cons]
  exact ⟨hne, hrearranged, (rendered_rearranged hne hrearranged).1 {} _⟩

end

end Agenda
