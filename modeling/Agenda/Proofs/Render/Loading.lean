import Agenda.Proofs.Pipeline.Course
import Agenda.Proofs.Render.Compile
import Agenda.Proofs.World.Notes

/-!
# Compiling while a log file is written

A template may be a file that cannot be read, or one that is no text, and every note that goes to a
log file changes the disk under it. What a rendering comes to is therefore stated for what is loaded
as the template at the moment at which it is loaded (`renderedIn`, `compiledIn`), and the run finds
that moment itself: behind its first notes, and in a world that differs from the one it started in
by notes alone (`exists_compile_run`).
-/

namespace Agenda

open World (Noted)

/-- How a step ends that answers for every fault. -/
def Outcome.settled {α : Type} : Except Trouble α → Except Trouble (Outcome Trouble α)
  | .ok value => .ok (.success value)
  | .error trouble => if trouble.isIn .any then .ok (.failure trouble) else .error trouble

/-- A fault is always answered for. -/
theorem Outcome.settled_fault {α : Type} (fault : Fault) :
    settled (.error (.fault fault) : Except Trouble α) = .ok (.failure (.fault fault)) :=
  if_pos (Family.within_any _)

variable {log : Option Agenda.Place} {world : World}

section

variable {α β γ ω : Type}

theorem Pipeline.run_single {stage : Stage World Trouble ω α β} {options : ω} {value : α}
    {result : Except Trouble β} {after : World}
    (happly : stage.applied (some options) value world = (result, after))
    (hafter : Noted log world after)
    (hdeclares : ∀ trouble, result = .error trouble → stage.declares trouble = trouble.isIn .any) :
    ∃ ended, Noted log world ended ∧
      (Pipeline.cons stage (some options) .nil).run value world =
        (Outcome.settled result, ended) := by
  cases result with
  | ok made => exact ⟨after, hafter, Pipeline.run_cons_of_ok happly⟩
  | error trouble =>
    have hfault := hdeclares trouble rfl
    cases hdeclared : stage.declares trouble with
    | true =>
      refine ⟨_, hafter.trans (World.noted_note (stage.failureNote trouble) hafter.log), ?_⟩
      rw [Outcome.settled, if_pos (hfault.symm.trans hdeclared)]
      exact Pipeline.run_cons_of_declared happly hdeclared
    | false =>
      have hno : ¬ trouble.isIn .any = true := by
        rw [← hfault, hdeclared]
        exact Bool.false_ne_true
      refine ⟨after, hafter, ?_⟩
      rw [Outcome.settled, if_neg hno]
      exact Pipeline.run_cons_of_undeclared happly hdeclared

/-- Loading a template and going on with it ends as what is loaded and the rest say. -/
theorem Template.exists_bind_load {path : Option Text} {name : Text}
    {more : Text → World.Act α} {result : Text → Except Trouble α}
    (hmore : ∀ template, Action.Gives world (more template) (result template))
    (hlog : world.logPlace? = log) :
    ∃ after, Noted log world after ∧
      (Template.load path name >>= more) world =
        (loaded path name world.disk world.here >>= result, after) := by
  have hload := load_eq path name world
  cases hloaded : loaded path name world.disk world.here with
  | error trouble =>
    rw [hloaded] at hload
    exact ⟨world, World.noted_refl hlog, Action.bind_of_error hload⟩
  | ok template =>
    rw [hloaded] at hload
    obtain ⟨after, hafter, heq⟩ := (hmore template).exists_noted hlog
    exact ⟨after, hafter, (Action.bind_of_ok hload).trans heq⟩

end

/-- Inside a template a rendering fails for a fault that every renderer answers for. -/
theorem isIn_rendering_of_rendering [Converter] {format : Format} {dayMinutes : Int} {template : Text}
    {timetable : Timetable} {fault : Fault}
    (h : rendering format dayMinutes template timetable = .error fault) :
    fault.isIn .rendering = true := by
  cases format with
  | picture => exact isIn_rendering_of_filledOrMissing h
  | booklet => exact isIn_rendering_of_filledOrMissing h
  | page =>
    rw [rendering] at h
    split at h
    · rw [← Except.error.inj h]
      rfl
    · exact isIn_rendering_of_filledOrMissing h

/-- What a rendering fails with for a description; only a page has to have descriptions converted.
-/
def unconverted? [Converter] (format : Format) (timetable : Timetable) : Option Trouble :=
  match format with
  | .page => Page.failure? timetable
  | .picture | .booklet => none

theorem exists_words_of_unconverted? [Converter] {format : Format} {timetable : Timetable}
    {trouble : Trouble} (h : unconverted? format timetable = some trouble) :
    ∃ words, trouble = .conversion words := by
  cases format with
  | picture => cases h
  | booklet => cases h
  | page =>
    obtain ⟨_, -, _, words, -, -, rfl⟩ := Page.exists_event_of_failure? h
    exact ⟨words, rfl⟩

/-- A timetable rendered in a format inside what is loaded as the template. -/
def renderedIn [Converter] (format : Format) (dayMinutes : Int) (loaded : Except Trouble Text)
    (timetable : Timetable) : Except Trouble Text :=
  if format = .page ∧ dayMinutes ≤ 0 then .error (.fault (.badDayLength dayMinutes))
  else do
    let template ← loaded
    (unconverted? format timetable).elim
      ((rendering format dayMinutes template timetable).mapError .fault) .error

/-- A template that cannot be loaded is a fault of rendering, or no fault at all. -/
theorem Template.isIn_rendering_of_loaded {path : Option Text} {name : Text} {disk : Disk}
    {here : Place} {fault : Fault} (h : loaded path name disk here = .error (.fault fault)) :
    fault.isIn .rendering = true := by
  cases path with
  | none =>
    rw [loaded] at h
    split at h
    · rw [← Trouble.fault.inj (Except.error.inj h)]
      rfl
    · cases h
  | some path =>
    rw [loaded, World.textAt] at h
    split at h
    · cases h
    · split at h
      · rw [← Trouble.fault.inj (Except.error.inj h)]
        rfl
      · rename_i bytes _
        cases htext : Text.ofFile? bytes with
        | none => rw [htext] at h; cases h
        | some text => rw [htext] at h; cases h

variable {options : Page.Options} {timetable : Timetable}

/-- The fault of a rendering is one that every renderer answers for; what the converter fails with
is none. -/
theorem isIn_rendering_of_renderedIn [Converter] {format : Format} {dayMinutes : Int}
    {loaded : Except Trouble Text} {trouble : Trouble}
    (hloaded : ∀ fault, loaded = .error (.fault fault) → fault.isIn .rendering = true)
    (h : renderedIn format dayMinutes loaded timetable = .error trouble) :
    trouble.isIn .rendering = trouble.isIn .any := by
  cases trouble with
  | fault fault =>
    have hrendering : fault.isIn .rendering = true := by
      rw [renderedIn] at h
      split at h
      · rw [← Trouble.fault.inj (Except.error.inj h)]
        rfl
      · cases loaded with
        | error trouble => exact hloaded fault h
        | ok template =>
          rw [show Except.ok template = (pure template : Except Trouble Text) from rfl,
            pure_bind] at h
          cases hconverted : unconverted? format timetable with
          | some other =>
            rw [hconverted] at h
            obtain ⟨words, rfl⟩ := exists_words_of_unconverted? hconverted
            cases h
          | none =>
            rw [hconverted] at h
            cases hrendering : rendering format dayMinutes template timetable with
            | ok text => rw [hrendering] at h; cases h
            | error other =>
              rw [hrendering] at h
              rw [← Trouble.fault.inj (Except.error.inj h)]
              exact isIn_rendering_of_rendering hrendering
    rw [Trouble.isIn, Trouble.isIn, hrendering, Fault.isIn, Family.within_any]
  | _ => rfl

section

variable [Converter]

theorem Picture.exists_apply (timetable : Timetable) (hlog : world.logPlace? = log) :
    ∃ after, Noted log world after ∧ Picture.stage.apply options.template timetable world =
      (renderedIn .picture options.dayMinutes
        (Template.loaded options.template Format.picture.templateName world.disk world.here)
        timetable, after) := by
  rw [Picture.apply_eq]
  exact Template.exists_bind_load (fun template =>
    (Action.gives_note world _).bind (Template.gives_fill template _ _)) hlog

theorem Booklet.exists_apply (timetable : Timetable) (hlog : world.logPlace? = log) :
    ∃ after, Noted log world after ∧ Booklet.stage.apply options.template timetable world =
      (renderedIn .booklet options.dayMinutes
        (Template.loaded options.template Format.booklet.templateName world.disk world.here)
        timetable, after) := by
  rw [Booklet.apply_eq]
  refine Template.exists_bind_load (fun template => ?_) hlog
  rw [Template.fillAll_of_separate (Booklet.separate_bindings timetable)]
  exact World.gives_orFault _

theorem Page.exists_apply (timetable : Timetable) (hlog : world.logPlace? = log) :
    ∃ after, Noted log world after ∧ Page.stage.apply options timetable world =
      (renderedIn .page options.dayMinutes
        (Template.loaded options.template Format.page.templateName world.disk world.here)
        timetable, after) := by
  rw [Page.apply_eq]
  by_cases hlength : options.dayMinutes ≤ 0
  · rw [if_pos hlength, renderedIn, if_pos ⟨rfl, hlength⟩]
    exact ⟨world, World.noted_refl hlog, rfl⟩
  · rw [if_neg hlength, renderedIn, if_neg (fun h => hlength h.2), Page.fillLoaded]
    refine Template.exists_bind_load (fun template => ?_) hlog
    have hrendering : rendering .page options.dayMinutes template timetable =
        Template.filledOrMissing template
          [("CALENDAR", Page.text options.dayMinutes timetable)] := if_neg hlength
    rw [hrendering]
    exact Page.gives_fill options timetable template

/-- A stage that renders what is loaded as its template is run like that. -/
theorem exists_run_of_apply {ω : Type} {stage : Stage World Trouble ω Timetable Text} {chosen : ω}
    {format : Format} (timetable : Timetable) (hdeclares : stage.declares = Trouble.isIn .rendering)
    (happly : ∀ world : World, world.logPlace? = log → ∃ after, Noted log world after ∧
      stage.apply chosen timetable world = (renderedIn format options.dayMinutes
        (Template.loaded options.template format.templateName world.disk world.here) timetable,
          after))
    (hlog : world.logPlace? = log) :
    ∃ loading ended, Noted log world loading ∧ Noted log world ended ∧
      (Pipeline.cons stage (some chosen) .nil).run timetable world =
        (Outcome.settled (renderedIn format options.dayMinutes
          (Template.loaded options.template format.templateName loading.disk world.here)
          timetable), ended) := by
  have hstart := World.noted_note stage.startNote hlog
  obtain ⟨after, hafter, happly⟩ := happly _ hstart.log
  rw [hstart.here] at happly
  obtain ⟨ended, hended, hrun⟩ := Pipeline.run_single happly (hstart.trans hafter) fun trouble h => by
    rw [hdeclares]
    exact isIn_rendering_of_renderedIn (fun fault => Template.isIn_rendering_of_loaded) h
  exact ⟨_, ended, hstart, hended, hrun⟩

/-- A renderer ends as the template says that it finds when it loads it. -/
theorem exists_renderer_run (format : Format) (options : Page.Options) (timetable : Timetable)
    (hlog : world.logPlace? = log) :
    ∃ loading ended, Noted log world loading ∧ Noted log world ended ∧
      (renderer format options).run timetable world =
        (Outcome.settled (renderedIn format options.dayMinutes
          (Template.loaded options.template format.templateName loading.disk world.here)
          timetable), ended) := by
  cases format with
  | picture => exact exists_run_of_apply timetable rfl (fun _ => Picture.exists_apply timetable) hlog
  | page => exact exists_run_of_apply timetable rfl (fun _ => Page.exists_apply timetable) hlog
  | booklet => exact exists_run_of_apply timetable rfl (fun _ => Booklet.exists_apply timetable) hlog

/-! ### Laying out and compiling -/

/-- Events laid out and rendered in a format, inside what is loaded as the template. -/
def laidOutIn (format : Format) (dayMinutes : Int) (loaded : Except Trouble Text)
    (events : List Event) : Except Trouble Text := do
  let timetable ← (timetableOrFault events).mapError .fault
  renderedIn format dayMinutes loaded timetable

/-- A document compiled under a policy to a format, inside what is loaded as the template. -/
def compiledIn [Languages] (policy : Policy) (format : Format) (dayMinutes : Int)
    (loaded : Except Trouble Text) (document : Text) : Except Trouble Text := do
  let events ← (eventsOrFault policy document).mapError .fault
  laidOutIn format dayMinutes loaded events

/-- From events on, a pipeline ends as laying out and rendering do. -/
theorem exists_layout_run (format : Format) (options : Page.Options) (events : List Event)
    (hlog : world.logPlace? = log) :
    ∃ loading ended, Noted log world loading ∧ Noted log world ended ∧
      (Pipeline.cons Timetable.stage none (renderer format options)).run events world =
        (Outcome.settled (laidOutIn format options.dayMinutes
          (Template.loaded options.template format.templateName loading.disk world.here)
          events), ended) := by
  obtain ⟨laid, hlaid, hchain⟩ := (Timetable.gives_chain events).exists_noted hlog
  cases htimetable : timetableOrFault events with
  | error fault =>
    refine ⟨world, laid, World.noted_refl hlog, hlaid, ?_⟩
    rw [htimetable] at hchain
    rw [laidOutIn, htimetable]
    refine (Action.bind_of_ok hchain).trans ?_
    rw [Outcome.ofFaults, Pipeline.runFrom_failure]
    exact congrArg (·, laid) (Outcome.settled_fault fault).symm
  | ok timetable =>
    obtain ⟨loading, ended, hloading, hended, hrun⟩ :=
      exists_renderer_run format options timetable hlaid.log
    refine ⟨loading, ended, hlaid.trans hloading, hlaid.trans hended, ?_⟩
    rw [htimetable] at hchain
    rw [hlaid.here] at hrun
    rw [laidOutIn, htimetable]
    exact (Action.bind_of_ok hchain).trans hrun

/-- **Compiling a document ends as its stages say, one after the other**, for the template that is
found when it is loaded. -/
theorem exists_compile_run [Languages] (policy : Policy) (format : Format) (options : Page.Options)
    (document : Text) (hlog : world.logPlace? = log) :
    ∃ loading ended, Noted log world loading ∧ Noted log world ended ∧
      (compile policy.name format options).run document world =
        (Outcome.settled (compiledIn policy format options.dayMinutes
          (Template.loaded options.template format.templateName loading.disk world.here)
          document), ended) := by
  obtain ⟨read, hread, hchain⟩ := (Reader.gives_chain policy document).exists_noted hlog
  cases hevents : eventsOrFault policy document with
  | error fault =>
    refine ⟨world, read, World.noted_refl hlog, hread, ?_⟩
    rw [hevents] at hchain
    rw [compiledIn, hevents]
    refine (Action.bind_of_ok hchain).trans ?_
    rw [Outcome.ofFaults, Pipeline.runFrom_failure]
    exact congrArg (·, read) (Outcome.settled_fault fault).symm
  | ok events =>
    obtain ⟨loading, ended, hloading, hended, hrun⟩ :=
      exists_layout_run format options events hread.log
    refine ⟨loading, ended, hread.trans hloading, hread.trans hended, ?_⟩
    rw [hevents] at hchain
    rw [hread.here] at hrun
    rw [compiledIn, hevents]
    exact (Action.bind_of_ok hchain).trans hrun

end

end Agenda
