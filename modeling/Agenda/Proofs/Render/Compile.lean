import Agenda.Proofs.Document.Policy
import Agenda.Proofs.Language.Code
import Agenda.Proofs.Render.Page
import Agenda.Proofs.Template.Fill
import Agenda.Proofs.Template.Load
import Agenda.Proofs.Timetable.Window
import Agenda.Render.Basic

/-!
# What compiling a document ends in

Compiling a document never stops without an outcome, and which outcome it is depends on the first of
four conditions that applies (`firstFailure`, `compile_classified`). Every stage is settled on its
own: what its rule gives in a world, whatever was noted there before. The stages are then put
together, and a failing one hides those behind it.
-/

namespace Agenda

/-! ### Conditions of failure -/

namespace Format

def templateName : Format → Text
  | picture => "template_tikz.tex"
  | page => "template.html"
  | booklet => "template_abstex.tex"

/-- The keys that a template of a format needs, in the order in which they are filled. -/
def keys : Format → List Text
  | picture => ["CALENDAR"]
  | page => ["CALENDAR"]
  | booklet => ["BEGIN_DATE", "END_DATE", "ABSTRACTS"]

end Format

/-- Under `abort` the first block that is no event is at fault. -/
def rejectionFailure [Languages] (policy : Policy) (document : Text) : Option Fault :=
  match policy with
  | .abort => (Block.rejections (Block.ofDocument document)).head?.map Rejection.fault
  | .skip => none

/-- It is a fault if no event is left. -/
def emptyFailure [Languages] (document : Text) : Option Fault :=
  if Block.events (Block.ofDocument document) = [] then some .noEvents else none

/-- For a page, the length of a day has to be positive. -/
def dayLengthFailure (format : Format) (dayMinutes : Int) : Option Fault :=
  if format = .page ∧ dayMinutes ≤ 0 then some (.badDayLength dayMinutes) else none

/-- The first key without a placeholder in the template is at fault. -/
def templateFailure (format : Format) (template : Text) : Option Fault :=
  (Template.missingKey? template format.keys).map fun key =>
    .missingPlaceholder (Template.placeholder key)

/-- What compiling a document fails with: the first of four conditions that applies. -/
def firstFailure [Languages] (policy : Policy) (format : Format) (dayMinutes : Int)
    (template document : Text) : Option Fault :=
  (rejectionFailure policy document).or <| (emptyFailure document).or <|
    (dayLengthFailure format dayMinutes).or <| templateFailure format template

variable {policy : Policy} {format : Format} {dayMinutes : Int} {document template : Text}
  {fault : Fault}

theorem family_of_rejectionFailure [Languages]
    (h : rejectionFailure policy document = some fault) :
    fault.family = .block := by
  cases policy with
  | skip => cases h
  | abort =>
    obtain ⟨rejection, _, rfl⟩ := Option.map_eq_some_iff.mp h
    rfl

theorem family_of_emptyFailure [Languages] (h : emptyFailure document = some fault) :
    fault.family = .noEvents := by
  rw [emptyFailure] at h
  split at h
  · rw [← Option.some.inj h]
    rfl
  · cases h

theorem family_of_dayLengthFailure (h : dayLengthFailure format dayMinutes = some fault) :
    fault.family = .rendering := by
  rw [dayLengthFailure] at h
  split at h
  · rw [← Option.some.inj h]
    rfl
  · cases h

theorem family_of_templateFailure (h : templateFailure format template = some fault) :
    fault.family = .template := by
  obtain ⟨key, _, rfl⟩ := Option.map_eq_some_iff.mp h
  rfl

/-! ### Outcomes of stages -/

/-- The outcome of a stage that answers for every fault of its rule. -/
def Outcome.ofFaults {α : Type} : Except Fault α → Outcome Trouble α
  | .ok value => .success value
  | .error fault => .failure (.fault fault)

section

variable {α β γ ω : Type} {world : World}

theorem World.gives_orFault (result : Except Fault α) :
    Action.Gives world (World.orFault result) (result.mapError Trouble.fault) := by
  cases result with
  | ok value => exact Action.gives_pure world value
  | error fault => exact Action.gives_throw world _

theorem Stage.gives_runWith {stage : Stage World Trouble ω α β} {options : ω} {value : α}
    {result : Except Fault β}
    (h : Action.Gives world (stage.apply options value) (result.mapError Trouble.fault))
    (hdeclares : ∀ fault, result = .error fault → stage.declares (.fault fault) = true) :
    Action.Gives world (stage.runWith options value) (.ok (.ofFaults result)) := by
  cases result with
  | ok made => exact Stage.gives_runWith_ok h
  | error fault => exact Stage.gives_runWith_error h (hdeclares fault rfl)

theorem Pipeline.gives_run_single {stage : Stage World Trouble ω α β} {options : ω} {value : α}
    {result : Except Fault β}
    (h : Action.Gives world (stage.runWith options value) (.ok (.ofFaults result))) :
    Action.Gives world ((Pipeline.cons stage (some options) .nil).run value)
      (.ok (.ofFaults result)) := by
  cases result with
  | ok made => exact Pipeline.gives_run_cons h (Pipeline.gives_run_nil world made)
  | error fault => exact Pipeline.gives_run_cons_failure h

/-- A pipeline ends as its first stage if that fails, and else as the rest of it. -/
theorem Pipeline.gives_run_bind {stage : Stage World Trouble ω α β} {options : Option ω}
    {rest : Pipeline World Trouble β γ} {value : α} {made : Except Fault β}
    {result : β → Except Fault γ}
    (h : Action.Gives world (stage.chain options value) (.ok (.ofFaults made)))
    (hrest : ∀ value, made = .ok value →
      Action.Gives world (rest.run value) (.ok (.ofFaults (result value)))) :
    Action.Gives world ((Pipeline.cons stage options rest).run value)
      (.ok (.ofFaults (made >>= result))) := by
  cases made with
  | ok value => exact Pipeline.gives_run_cons h (hrest value rfl)
  | error fault => exact Pipeline.gives_run_cons_failure h

end

/-! ### Reading and laying out -/

def eventsOrFault [Languages] (policy : Policy) (document : Text) :
    Except Fault (List Event) :=
  match rejectionFailure policy document with
  | some fault => .error fault
  | none => .ok (Block.events (Block.ofDocument document))

def timetableOrFault (events : List Event) : Except Fault Timetable :=
  match Timetable.ofEvents? events with
  | some timetable => .ok timetable
  | none => .error .noEvents

theorem Reader.result_readDocument [Languages] (policy : Policy) (document : Text) :
    (readDocument document policy.name).result =
      (eventsOrFault policy document).mapError Trouble.fault := by
  cases policy with
  | skip =>
    rw [result_readDocument_skip]
    rfl
  | abort =>
    rw [result_readDocument_abort, eventsOrFault, rejectionFailure]
    cases Block.rejections (Block.ofDocument document) <;> rfl

theorem isIn_reading_of_eventsOrFault [Languages]
    (h : eventsOrFault policy document = .error fault) :
    fault.isIn .reading = true := by
  rw [eventsOrFault] at h
  split at h
  · rename_i rejected hrejected
    rw [← Except.error.inj h, Fault.isIn, family_of_rejectionFailure hrejected]
    rfl
  · cases h

variable {world : World}

theorem Reader.gives_chain [Languages] (policy : Policy) (document : Text) :
    Action.Gives world (Reader.stage.chain (some policy.name) document)
      (.ok (.ofFaults (eventsOrFault policy document))) := by
  have happly : Action.Gives world (Reader.stage.apply policy.name document)
      (readDocument document policy.name).result := by
    refine (Action.gives_noteAll world _).bind ?_
    cases (readDocument document policy.name).result with
    | ok events => exact Action.gives_pure world events
    | error trouble => exact Action.gives_throw world trouble
  rw [Reader.result_readDocument] at happly
  exact Stage.gives_runWith happly fun fault => isIn_reading_of_eventsOrFault

theorem Timetable.gives_apply (events : List Event) :
    Action.Gives world (Timetable.stage.apply () events)
      ((timetableOrFault events).mapError Trouble.fault) := by
  unfold Timetable.stage timetableOrFault
  dsimp only
  cases Timetable.ofEvents? events with
  | some timetable => exact Action.gives_pure world timetable
  | none => exact Action.gives_throw world _

theorem Timetable.gives_chain (events : List Event) :
    Action.Gives world (Timetable.stage.chain none events)
      (.ok (.ofFaults (timetableOrFault events))) := by
  refine Stage.gives_runWith (Timetable.gives_apply events) fun fault hfault => ?_
  rw [timetableOrFault] at hfault
  cases htimetable : Timetable.ofEvents? events with
  | some timetable => rw [htimetable] at hfault; cases hfault
  | none =>
    rw [htimetable] at hfault
    rw [← Except.error.inj hfault]
    rfl

/-! ### Rendering -/

/-- A timetable rendered in a format inside a template, once the descriptions have been converted.
-/
def rendering [Converter] (format : Format) (dayMinutes : Int) (template : Text)
    (timetable : Timetable) : Except Fault Text :=
  match format with
  | .picture => Template.filledOrMissing template [("CALENDAR", Picture.ofTimetable timetable)]
  | .page =>
    if dayMinutes ≤ 0 then .error (.badDayLength dayMinutes)
    else Template.filledOrMissing template [("CALENDAR", Page.text dayMinutes timetable)]
  | .booklet => Template.filledOrMissing template (Booklet.bindings timetable)

/-- Rendering fails for the length of a day or for the template, and for nothing else. -/
theorem rendering_eq [Converter] (format : Format) (dayMinutes : Int) (template : Text)
    (timetable : Timetable) :
    match (dayLengthFailure format dayMinutes).or (templateFailure format template) with
    | some fault => rendering format dayMinutes template timetable = .error fault
    | none => ∃ text, rendering format dayMinutes template timetable = .ok text := by
  have hfilled : ∀ bindings : List (Text × Text), bindings.map Prod.fst = format.keys →
      match templateFailure format template with
      | some fault => Template.filledOrMissing template bindings = .error fault
      | none => ∃ text, Template.filledOrMissing template bindings = .ok text := by
    intro bindings hkeys
    rw [templateFailure, ← hkeys]
    simp only [Template.filledOrMissing]
    cases Template.missingKey? template (bindings.map Prod.fst) with
    | some key => rfl
    | none => exact ⟨_, rfl⟩
  cases format with
  | picture => exact hfilled _ rfl
  | booklet => exact hfilled (Booklet.bindings timetable) rfl
  | page =>
    by_cases hlength : dayMinutes ≤ 0
    · simp only [rendering, dayLengthFailure, hlength, and_self, if_true, Option.some_or]
    · simp only [rendering, dayLengthFailure, hlength, and_false, if_false, Option.none_or]
      exact hfilled _ rfl

theorem isIn_rendering_of_filledOrMissing {template : Text} {bindings : List (Text × Text)}
    {fault : Fault} (h : Template.filledOrMissing template bindings = .error fault) :
    fault.isIn .rendering = true := by
  rw [Template.filledOrMissing] at h
  split at h
  · rw [← Except.error.inj h]
    rfl
  · cases h

theorem Template.gives_fill (template key value : Text) :
    Action.Gives world (World.orFault (Template.fill template key value))
      ((Template.filledOrMissing template [(key, value)]).mapError Trouble.fault) := by
  rw [Template.fill_eq]
  exact World.gives_orFault _

theorem Picture.apply_eq (path : Option Text) (timetable : Timetable) :
    Picture.stage.apply path timetable = (do
      let template ← Template.load path "template_tikz.tex"
      World.note .debug (Picture.sizeNote timetable)
      World.orFault (Template.fill template "CALENDAR" (Picture.ofTimetable timetable))) := rfl

theorem Booklet.apply_eq (path : Option Text) (timetable : Timetable) :
    Booklet.stage.apply path timetable = (do
      let template ← Template.load path "template_abstex.tex"
      World.orFault (Template.fillAll template (Booklet.bindings timetable))) := rfl

variable {options : Page.Options} {template : Text}

theorem Picture.gives_runWith [Converter] (timetable : Timetable)
    (h : Action.Gives world (Template.load options.template "template_tikz.tex") (.ok template)) :
    Action.Gives world (Picture.stage.runWith options.template timetable)
      (.ok (.ofFaults (rendering .picture options.dayMinutes template timetable))) := by
  refine Stage.gives_runWith ?_ fun fault => isIn_rendering_of_filledOrMissing
  rw [Picture.apply_eq]
  exact h.bind ((Action.gives_note world _).bind (Template.gives_fill template _ _))

theorem Booklet.gives_runWith [Converter] (timetable : Timetable)
    (h : Action.Gives world (Template.load options.template "template_abstex.tex")
      (.ok template)) :
    Action.Gives world (Booklet.stage.runWith options.template timetable)
      (.ok (.ofFaults (rendering .booklet options.dayMinutes template timetable))) := by
  refine Stage.gives_runWith ?_ fun fault => isIn_rendering_of_filledOrMissing
  rw [Booklet.apply_eq]
  refine h.bind ?_
  rw [Template.fillAll_of_separate (Booklet.separate_bindings timetable)]
  exact World.gives_orFault _

/-- What a page is made by once the length of a day is known to be positive. -/
def Page.fillLoaded [Converter] (options : Page.Options) (timetable : Timetable) : World.Act Text := do
  let template ← Template.load options.template "template.html"
  let page ← World.orTrouble (Page.ofTimetable options.dayMinutes timetable)
  World.orFault (Template.fill template "CALENDAR" page)

theorem Page.apply_eq [Converter] (options : Page.Options) (timetable : Timetable) :
    Page.stage.apply options timetable =
      if options.dayMinutes ≤ 0 then
        throw (Trouble.fault (.badDayLength options.dayMinutes)) >>= fun _ : Unit =>
          Page.fillLoaded options timetable
      else Page.fillLoaded options timetable := rfl

/-- Inside a template a page fails with what the converter fails with first, or is filled in. -/
theorem Page.gives_fill [Converter] (options : Page.Options) (timetable : Timetable)
    (template : Text) :
    Action.Gives world (World.orTrouble (ofTimetable options.dayMinutes timetable) >>= fun page =>
        World.orFault (Template.fill template "CALENDAR" page))
      ((failure? timetable).elim ((Template.filledOrMissing template
        [("CALENDAR", text options.dayMinutes timetable)]).mapError Trouble.fault) .error) := by
  rw [ofTimetable_eq]
  cases failure? timetable with
  | none => exact (Action.gives_pure world _).bind (Template.gives_fill template _ _)
  | some trouble => exact (Action.gives_throw world trouble).bind_error

section

variable [Converter] (timetable : Timetable) (hconverts : Page.failure? timetable = none)
include hconverts

theorem Page.gives_runWith
    (h : Action.Gives world (Template.load options.template "template.html") (.ok template)) :
    Action.Gives world (Page.stage.runWith options timetable)
      (.ok (.ofFaults (rendering .page options.dayMinutes template timetable))) := by
  by_cases hlength : options.dayMinutes ≤ 0
  · have hrendering : rendering .page options.dayMinutes template timetable =
        .error (.badDayLength options.dayMinutes) := if_pos hlength
    rw [hrendering]
    refine Stage.gives_runWith ?_ fun fault hfault => ?_
    · rw [Page.apply_eq, if_pos hlength]
      exact (Action.gives_throw world _).bind_error
    · rw [← Except.error.inj hfault]
      rfl
  · have hrendering : rendering .page options.dayMinutes template timetable =
        Template.filledOrMissing template
          [("CALENDAR", Page.text options.dayMinutes timetable)] := if_neg hlength
    have hfill := @Page.gives_fill world _ options timetable template
    rw [hconverts] at hfill
    rw [hrendering]
    refine Stage.gives_runWith ?_ fun fault => isIn_rendering_of_filledOrMissing
    rw [Page.apply_eq, if_neg hlength]
    exact h.bind hfill

theorem renderer_gives_run (format : Format)
    (h : Action.Gives world (Template.load options.template format.templateName) (.ok template)) :
    Action.Gives world ((renderer format options).run timetable)
      (.ok (.ofFaults (rendering format options.dayMinutes template timetable))) := by
  cases format with
  | picture => exact Pipeline.gives_run_single (Picture.gives_runWith timetable h)
  | page => exact Pipeline.gives_run_single (Page.gives_runWith timetable hconverts h)
  | booklet => exact Pipeline.gives_run_single (Booklet.gives_runWith timetable h)

end

/-! ### The whole pipeline -/

/-- A document compiled under a policy to a format, inside a template. -/
def compiled [Languages] [Converter] (policy : Policy) (format : Format) (dayMinutes : Int)
    (template document : Text) : Except Fault Text := do
  let events ← eventsOrFault policy document
  let timetable ← timetableOrFault events
  rendering format dayMinutes template timetable

/-- Compiling a document ends as the rules of its stages, one after the other, say. -/
theorem compile_gives_run [Languages] [Converter] (policy : Policy) (format : Format)
    (document : Text) (hconverts : ∀ timetable, Page.failure? timetable = none)
    (h : Action.Gives world (Template.load options.template format.templateName) (.ok template)) :
    Action.Gives world ((compile policy.name format options).run document)
      (.ok (.ofFaults (compiled policy format options.dayMinutes template document))) := by
  refine Pipeline.gives_run_bind (Reader.gives_chain policy document) fun events _ => ?_
  refine Pipeline.gives_run_bind (Timetable.gives_chain events) fun timetable _ => ?_
  exact renderer_gives_run timetable (hconverts timetable) format h

/-- What compiling fails with is the first of the four conditions that applies. -/
theorem compiled_eq [Languages] [Converter] (policy : Policy) (format : Format)
    (dayMinutes : Int) (template document : Text) :
    match firstFailure policy format dayMinutes template document with
    | some fault => compiled policy format dayMinutes template document = .error fault
    | none => ∃ text, compiled policy format dayMinutes template document = .ok text := by
  rw [firstFailure, compiled, eventsOrFault]
  cases rejectionFailure policy document with
  | some fault => rfl
  | none =>
    rw [Option.none_or, emptyFailure]
    -- There is a timetable just when an event is left.
    cases hlayout : Timetable.ofEvents? (Block.events (Block.ofDocument document)) with
    | none =>
      rw [if_pos (Timetable.ofEvents?_eq_none.mp hlayout)]
      simp only [Option.some_or, bind, Except.bind, timetableOrFault, hlayout]
    | some timetable =>
      have hne : Block.events (Block.ofDocument document) ≠ [] := by
        intro hnil
        rw [Timetable.ofEvents?_eq_none.mpr hnil] at hlayout
        cases hlayout
      rw [if_neg hne, Option.none_or]
      simp only [bind, Except.bind, timetableOrFault, hlayout]
      exact rendering_eq format dayMinutes template timetable

/-- **Compiling a document always has an outcome, and the first of the conditions that applies
decides it**, if the converter makes markup of every description; faults of different conditions are
of different families. With a readable template, nothing but notes is left behind; the ends of the
events, the corners of the window and its days are all reckoned inside the calendar. -/
theorem compile_classified [Languages] [Converter]
    (hconverter : ∀ description, ∃ html, Converter.convert description = .ok html)
    (policy : Policy) (format : Format) (options : Page.Options) (document template : Text)
    (world : World)
    (h : Action.Gives world (Template.load options.template format.templateName) (.ok template)) :
    (∀ fault, firstFailure policy format options.dayMinutes template document = some fault →
        Action.Gives world ((compile policy.name format options).run document)
          (.ok (.failure (.fault fault)))) ∧
      (firstFailure policy format options.dayMinutes template document = none →
        ∃ text, Action.Gives world ((compile policy.name format options).run document)
          (.ok (.success text))) ∧
      ((∀ fault, rejectionFailure policy document = some fault → fault.family = .block) ∧
        (∀ fault, emptyFailure document = some fault → fault.family = .noEvents) ∧
        (∀ fault, dayLengthFailure format options.dayMinutes = some fault →
          fault.family = .rendering) ∧
        ∀ fault, templateFailure format template = some fault → fault.family = .template) ∧
      (∀ event ∈ Block.events (Block.ofDocument document),
        event.start.later? event.duration = some event.finish) ∧
      ∀ window, Window.ofEvents? (Block.events (Block.ofDocument document)) = some window →
        window.CornersFrom (Block.events (Block.ofDocument document)) ∧ 0 < window.dayCount ∧
          (List.range window.dayCount.toNat).map window.firstDay.later? =
            window.days.map some := by
  have hrun := compile_gives_run policy format document (Page.failure?_eq_none hconverter) h
  have hcompiled := compiled_eq policy format options.dayMinutes template document
  refine ⟨fun fault hfirst => ?_, fun hfirst => ?_,
    ⟨fun fault => family_of_rejectionFailure, fun fault => family_of_emptyFailure,
      fun fault => family_of_dayLengthFailure, fun fault => family_of_templateFailure⟩,
    fun event _ => event.later?_start, fun window hwindow => ?_⟩
  · rw [hfirst] at hcompiled
    rwa [hcompiled] at hrun
  · rw [hfirst] at hcompiled
    obtain ⟨text, htext⟩ := hcompiled
    rw [htext] at hrun
    exact ⟨text, hrun⟩
  · exact ⟨Window.cornersFrom_of_ofEvents? hwindow, Window.dayCount_pos hwindow,
      window.map_later?_firstDay⟩

/-- An event up to the last minute of the calendar, and a block that is no event. -/
def lateDocument : Text :=
  "type: talk\ntitle: Last\ndate: 9999-12-31 23:00\nduration: 59\n---\nduration: 60"

section

attribute [local instance] Languages.french
attribute [local instance] Converter.paragraph

theorem compile_classified_late :
    (∀ description, ∃ html, Converter.convert description = .ok html) ∧
      Action.Gives (World.ofDisk .empty []) (Template.load none Format.booklet.templateName)
        (.ok Template.booklet) ∧
      (∃ text, Action.Gives (World.ofDisk .empty [])
        ((compile Policy.skip.name .booklet {}).run lateDocument) (.ok (.success text))) ∧
      Action.Gives (World.ofDisk .empty [])
        ((compile Policy.abort.name .booklet {}).run lateDocument)
        (.ok (.failure (.fault (.inBlock (.missingSetting "date") 2 6)))) := by
  have hconverter : ∀ description, ∃ html, Converter.convert description = .ok html :=
    fun description => ⟨_, rfl⟩
  have hload : Action.Gives (World.ofDisk .empty [])
      (Template.load none Format.booklet.templateName) (.ok Template.booklet) :=
    Template.gives_load_of_bundled rfl _
  have hskip : firstFailure .skip .booklet ({} : Page.Options).dayMinutes Template.booklet
      lateDocument = none := by
    decide +kernel
  have habort : firstFailure .abort .booklet ({} : Page.Options).dayMinutes Template.booklet
      lateDocument = some (.inBlock (.missingSetting "date") 2 6) := by
    decide +kernel
  obtain ⟨_, hsuccess, _⟩ :=
    compile_classified hconverter .skip .booklet {} lateDocument Template.booklet _ hload
  obtain ⟨hfailure, _⟩ :=
    compile_classified hconverter .abort .booklet {} lateDocument Template.booklet _ hload
  exact ⟨hconverter, hload, hsuccess hskip, hfailure _ habort⟩

end

end Agenda
