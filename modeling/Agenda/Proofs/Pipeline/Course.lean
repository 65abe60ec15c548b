import Agenda.Proofs.Pipeline.Gives
import Mathlib.Logic.Relation

/-!
# The course of a pipeline

Which stages a run of a pipeline applies, to what, and how it ends. A course (`Pipeline.Course`)
lists the applications in their order: every stage is applied to what the one before it made, up to
the first one that raises an error, and that error is the failure of the run if the stage answers
for it and goes on upwards if it does not. Every pipeline, whatever its stages do, has one course
from each value and state, and running it follows that course (`Pipeline.course_run`,
`Pipeline.Course.unique`); what the stages note about their own application is therefore one entry
for each, in the order of the course (`Pipeline.Course.seen_eq`). A stage of this program answers
for a family of faults, and families lie in one another like the branches of a tree
(`Family.within_iff_reflTransGen`). Main statement: `Pipeline.run_first_raised`.
-/

namespace Agenda

/-! ### Families of faults -/

namespace Family

def parent? : Family → Option Family
  | any => none
  | reading => some any
  | field => some reading
  | kind => some reading
  | date => some reading
  | duration => some reading
  | setting => some reading
  | block => some reading
  | step => some any
  | noEvents => some step
  | rendering => some step
  | template => some rendering
  | typesetting => some step

theorem chain_eq (family : Family) :
    family.chain = family :: (family.parent?.elim [] chain) := by
  cases family <;> rfl

/-- The wider families are those that are reached from one parent to the next. -/
theorem within_iff_reflTransGen {family wider : Family} :
    family.within wider = true ↔
      Relation.ReflTransGen (fun inner outer => parent? inner = some outer) family wider := by
  rw [within, List.contains_iff_mem]
  constructor
  · intro h
    induction hchain : family.chain generalizing family with
    | nil => simp [hchain] at h
    | cons first rest ih =>
      rw [chain_eq, List.cons.injEq] at hchain
      obtain ⟨rfl, hrest⟩ := hchain
      rw [chain_eq, List.mem_cons] at h
      rcases h with rfl | h
      · exact .refl
      · cases hparent : family.parent? with
        | none => simp [hparent] at h
        | some parent =>
          rw [hparent] at h hrest
          exact .head hparent (ih h hrest)
  · intro h
    induction h using Relation.ReflTransGen.head_induction_on with
    | refl => rw [chain_eq]; exact List.mem_cons_self
    | head hparent _ ih =>
      rw [chain_eq, hparent]
      exact List.mem_cons_of_mem _ ih

end Family

/-- A trouble is in a family if it is a fault, and the family of the fault lies in it however
deep. -/
theorem Trouble.isIn_iff {family : Family} {trouble : Trouble} :
    trouble.isIn family = true ↔ ∃ fault, trouble = .fault fault ∧
      Relation.ReflTransGen (fun inner outer => Family.parent? inner = some outer)
        fault.family family := by
  cases trouble with
  | fault cause =>
    rw [Trouble.isIn, Fault.isIn, Family.within_iff_reflTransGen]
    simp
  | _ => simp [Trouble.isIn]

/-! ### Stages in a pipeline -/

namespace Stage

variable {σ ε ω α β : Type} [Journal σ]

/-- What a stage does to a value in a pipeline: it is applied under the options given or else under
its own, behind the note that it starts. -/
def applied (stage : Stage σ ε ω α β) (options : Option ω) (value : α) (state : σ) :
    Except ε β × σ :=
  stage.apply (options.getD stage.defaults) value (Journal.note stage.startNote state)

/-- With options or without, a stage is run in one way. -/
theorem chain_eq [Worded ε] (stage : Stage σ ε ω α β) (options : Option ω) (value : α)
    (state : σ) :
    stage.chain options value state =
      match stage.applied options value state with
      | (.ok result, state) => (.ok (.success result), state)
      | (.error error, state) =>
        if stage.declares error then
          (.ok (.failure error), Journal.note (stage.failureNote error) state)
        else (.error error, state) := by
  cases options <;> rfl

end Stage

/-! ### Steps and calls -/

/-- A stage with the options that it is applied under. -/
structure Step (σ ε : Type) : Type 1 where
  {ω α β : Type}
  stage : Stage σ ε ω α β
  options : ω

/-- One application of a stage: to a value and in a state. -/
structure Call (σ ε : Type) : Type 1 extends Step σ ε where
  value : α
  before : σ

namespace Call

variable {σ ε ω α β : Type}

/-- The state that an application leaves. -/
def after (call : Call σ ε) : σ :=
  (call.stage.apply call.options call.value call.before).2

/-- The error that an application raises, if it does not give a value. -/
def raised? (call : Call σ ε) : Option ε :=
  match (call.stage.apply call.options call.value call.before).1 with
  | .ok _ => none
  | .error error => some error

/-- The application of a stage in a pipeline: under the options given or else the default ones, and
behind the note that the stage starts. -/
def ofStage [Journal σ] (stage : Stage σ ε ω α β) (options : Option ω) (value : α) (state : σ) :
    Call σ ε :=
  ⟨⟨stage, options.getD stage.defaults⟩, value, Journal.note stage.startNote state⟩

variable [Journal σ] {stage : Stage σ ε ω α β} {options : Option ω} {value : α} {state after : σ}

theorem after_ofStage {result : Except ε β}
    (happly : stage.applied options value state = (result, after)) :
    (ofStage stage options value state).after = after :=
  congrArg Prod.snd happly

theorem raised?_ofStage_of_ok {made : β}
    (happly : stage.applied options value state = (.ok made, after)) :
    (ofStage stage options value state).raised? = none := by
  rw [Stage.applied] at happly
  rw [Call.raised?, ofStage, happly]

theorem raised?_ofStage_of_error {error : ε}
    (happly : stage.applied options value state = (.error error, after)) :
    (ofStage stage options value state).raised? = some error := by
  rw [Stage.applied] at happly
  rw [Call.raised?, ofStage, happly]

/-- What a stage records of its application is what has been recorded behind it. -/
theorem seen_ofStage {ρ : Type} {seen : σ → List ρ} {record : Call σ ε → ρ} {result : Except ε β}
    (hnote : ∀ note state, note.level = .debug → seen (Journal.note note state) = seen state)
    (hrecord : seen (ofStage stage options value state).after =
      seen (ofStage stage options value state).before ++ [record (ofStage stage options value state)])
    (happly : stage.applied options value state = (result, after)) :
    seen after = seen state ++ [record (ofStage stage options value state)] := by
  have hstart : seen (ofStage stage options value state).before = seen state := hnote _ _ rfl
  rwa [after_ofStage happly, hstart] at hrecord

end Call

namespace Pipeline

variable {σ ε ω α β γ : Type}

/-- The stages of a pipeline, each under the options given with it or else under its own. -/
def steps : {α β : Type} → Pipeline σ ε α β → List (Step σ ε)
  | _, _, nil => []
  | _, _, cons stage options rest => ⟨stage, options.getD stage.defaults⟩ :: rest.steps

/-! ### Courses -/

section Course

variable [Journal σ] [Worded ε]

/-- The applications of a run from a value and a state, and how it ends. Nothing is applied behind
the first error, and every other stage is applied to what was made before it. -/
inductive Course : {α β : Type} → Pipeline σ ε α β → α → σ → List (Call σ ε) →
    Except ε (Outcome ε β) × σ → Prop
  | finished {α : Type} (value : α) (state : σ) :
      Course nil value state [] (.ok (.success value), state)
  | passed {ω α β γ : Type} {stage : Stage σ ε ω α β} {options : Option ω}
      {rest : Pipeline σ ε β γ} {value : α} {state after : σ} {made : β} {calls : List (Call σ ε)}
      {ending : Except ε (Outcome ε γ) × σ}
      (happly : stage.applied options value state = (.ok made, after))
      (hrest : Course rest made after calls ending) :
      Course (cons stage options rest) value state
        (.ofStage stage options value state :: calls) ending
  | failed {ω α β γ : Type} {stage : Stage σ ε ω α β} {options : Option ω}
      {rest : Pipeline σ ε β γ} {value : α} {state after : σ} {error : ε}
      (happly : stage.applied options value state = (.error error, after))
      (hdeclares : stage.declares error = true) :
      Course (cons stage options rest) value state
        [.ofStage stage options value state]
        (.ok (.failure error), Journal.note (stage.failureNote error) after)
  | raised {ω α β γ : Type} {stage : Stage σ ε ω α β} {options : Option ω}
      {rest : Pipeline σ ε β γ} {value : α} {state after : σ} {error : ε}
      (happly : stage.applied options value state = (.error error, after))
      (hdeclares : stage.declares error = false) :
      Course (cons stage options rest) value state
        [.ofStage stage options value state]
        (.error error, after)

end Course

/-! ### Running follows the course -/

section Run

variable [Journal σ] [Worded ε] {stage : Stage σ ε ω α β} {options : Option ω}
  {rest : Pipeline σ ε β γ} {value : α} {state after : σ} {made : β} {error : ε}

theorem run_cons_of_ok
    (happly : stage.applied options value state = (.ok made, after)) :
    (cons stage options rest).run value state = rest.run made after := by
  refine Action.bind_of_ok ?_
  rw [Outcome.andThen, Stage.chain_eq, happly]

theorem run_cons_of_declared
    (happly : stage.applied options value state = (.error error, after))
    (hdeclares : stage.declares error = true) :
    (cons stage options rest).run value state =
      (.ok (.failure error), Journal.note (stage.failureNote error) after) := by
  have hstage : (Outcome.success value).andThen stage options state =
      (.ok (.failure error), Journal.note (stage.failureNote error) after) := by
    simp only [Outcome.andThen, Stage.chain_eq, happly, hdeclares, if_true]
  refine (Action.bind_of_ok hstage).trans ?_
  rw [runFrom_failure]
  rfl

theorem run_cons_of_undeclared
    (happly : stage.applied options value state = (.error error, after))
    (hdeclares : stage.declares error = false) :
    (cons stage options rest).run value state = (.error error, after) := by
  refine Action.bind_of_error ?_
  simp only [Outcome.andThen, Stage.chain_eq, happly, hdeclares, Bool.false_eq_true, if_false]

/-- With an error behind it, the first stage of a pipeline leaves no success. -/
theorem run_cons_ne_success
    (happly : stage.applied options value state = (.error error, after)) (result : γ) (state' : σ) :
    (cons stage options rest).run value state ≠ (.ok (.success result), state') := by
  intro hrun
  cases hdeclares : stage.declares error with
  | true => cases (run_cons_of_declared happly hdeclares).symm.trans hrun
  | false => cases (run_cons_of_undeclared happly hdeclares).symm.trans hrun

/-- A run depends on its value only by what the first stage does with it. -/
theorem run_cons_congr {value' : α}
    (h : stage.applied options value state = stage.applied options value' state) :
    (cons stage options rest).run value state = (cons stage options rest).run value' state := by
  have hstage : (Outcome.success value).andThen stage options state =
      (Outcome.success value').andThen stage options state := by
    simp only [Outcome.andThen, Stage.chain_eq, h]
  cases hresult : (Outcome.success value').andThen stage options state with
  | mk result after =>
    cases result with
    | ok outcome =>
      exact (Action.bind_of_ok (hstage.trans hresult)).trans (Action.bind_of_ok hresult).symm
    | error error =>
      exact (Action.bind_of_error (hstage.trans hresult)).trans (Action.bind_of_error hresult).symm

/-- A run follows some course. -/
theorem course_run (pipeline : Pipeline σ ε α β) (value : α) (state : σ) :
    ∃ calls, Course pipeline value state calls (pipeline.run value state) := by
  induction pipeline generalizing state with
  | nil => exact ⟨[], .finished value state⟩
  | cons stage options rest ih =>
    cases happly : stage.applied options value state with
    | mk result after =>
      cases result with
      | ok made =>
        obtain ⟨calls, hrest⟩ := ih made after
        rw [run_cons_of_ok happly]
        exact ⟨_, .passed happly hrest⟩
      | error error =>
        cases hdeclares : stage.declares error with
        | true =>
          rw [run_cons_of_declared happly hdeclares]
          exact ⟨_, .failed happly hdeclares⟩
        | false =>
          rw [run_cons_of_undeclared happly hdeclares]
          exact ⟨_, .raised happly hdeclares⟩

/-! ### Pipelines behind one another -/

theorem run_append_of_success {first : Pipeline σ ε α β} (second : Pipeline σ ε β γ)
    (h : first.run value state = (.ok (.success made), after)) :
    (first.append second).run value state = second.run made after := by
  rw [run_append]
  exact Action.bind_of_ok h

theorem run_append_of_failure {first : Pipeline σ ε α β} (second : Pipeline σ ε β γ)
    (h : first.run value state = (.ok (.failure error), after)) :
    (first.append second).run value state = (.ok (.failure error), after) := by
  rw [run_append, Action.bind_of_ok h, runFrom_failure]
  rfl

theorem run_append_of_error {first : Pipeline σ ε α β} (second : Pipeline σ ε β γ)
    (h : first.run value state = (.error error, after)) :
    (first.append second).run value state = (.error error, after) := by
  rw [run_append]
  exact Action.bind_of_error h

end Run

/-! ### What a course consists of -/

namespace Course

variable [Journal σ] [Worded ε] {pipeline : Pipeline σ ε α β} {value : α} {state : σ}
  {calls others : List (Call σ ε)} {ending other : Except ε (Outcome ε β) × σ}

/-- There is one course from a value and a state. -/
theorem unique (h : Course pipeline value state calls ending)
    (hother : Course pipeline value state others other) : others = calls ∧ other = ending := by
  induction h generalizing others with
  | finished => cases hother; exact ⟨rfl, rfl⟩
  | passed happly _ ih =>
    cases hother with
    | passed happly' hrest' =>
      obtain ⟨hmade, hafter⟩ := Prod.mk.inj (happly.symm.trans happly')
      obtain rfl := Except.ok.inj hmade
      subst hafter
      obtain ⟨rfl, rfl⟩ := ih hrest'
      exact ⟨rfl, rfl⟩
    | failed happly' => rw [happly] at happly'; cases happly'
    | raised happly' => rw [happly] at happly'; cases happly'
  | failed happly hdeclares =>
    cases hother with
    | passed happly' => rw [happly] at happly'; cases happly'
    | failed happly' =>
      rw [happly] at happly'
      cases happly'
      exact ⟨rfl, rfl⟩
    | raised happly' hdeclares' =>
      rw [happly] at happly'
      cases happly'
      simp [hdeclares] at hdeclares'
  | raised happly hdeclares =>
    cases hother with
    | passed happly' => rw [happly] at happly'; cases happly'
    | failed happly' hdeclares' =>
      rw [happly] at happly'
      cases happly'
      simp [hdeclares] at hdeclares'
    | raised happly' =>
      rw [happly] at happly'
      cases happly'
      exact ⟨rfl, rfl⟩

/-- The stages are applied from the first on, none twice and none left out. -/
theorem steps_prefix (h : Course pipeline value state calls ending) :
    calls.map Call.toStep <+: pipeline.steps := by
  induction h with
  | finished => exact List.nil_prefix
  | passed _ _ ih => exact List.cons_prefix_cons.mpr ⟨rfl, ih⟩
  | failed => exact List.cons_prefix_cons.mpr ⟨rfl, List.nil_prefix⟩
  | raised => exact List.cons_prefix_cons.mpr ⟨rfl, List.nil_prefix⟩

/-- A course goes through all stages to a success, or its last application is the only one that
raises an error. -/
theorem ends (h : Course pipeline value state calls ending) :
    (calls.map Call.toStep = pipeline.steps ∧ (∀ call ∈ calls, call.raised? = none) ∧
      ∃ made after, ending = (.ok (.success made), after)) ∨
    ∃ passed last error, calls = passed ++ [last] ∧ (∀ call ∈ passed, call.raised? = none) ∧
      last.raised? = some error ∧
      ending = if last.stage.declares error then
          (.ok (.failure error), Journal.note (last.stage.failureNote error) last.after)
        else (.error error, last.after) := by
  induction h with
  | finished value state => exact .inl ⟨rfl, by simp, value, state, rfl⟩
  | passed happly _ ih =>
    have hnone := Call.raised?_ofStage_of_ok happly
    rcases ih with ⟨hsteps, hcalls, hending⟩ | ⟨passed, last, error, rfl, hpassed, hlast, hending⟩
    · exact .inl ⟨congrArg _ hsteps, List.forall_mem_cons.mpr ⟨hnone, hcalls⟩, hending⟩
    · exact .inr ⟨_ :: passed, last, error, rfl, List.forall_mem_cons.mpr ⟨hnone, hpassed⟩, hlast,
        hending⟩
  | failed happly hdeclares =>
    refine .inr ⟨[], _, _, rfl, by simp, Call.raised?_ofStage_of_error happly, ?_⟩
    rw [← Call.after_ofStage happly]
    exact (if_pos hdeclares).symm
  | raised happly hdeclares =>
    refine .inr ⟨[], _, _, rfl, by simp, Call.raised?_ofStage_of_error happly, ?_⟩
    rw [← Call.after_ofStage happly]
    exact (if_neg (Bool.eq_false_iff.mp hdeclares)).symm

/-- If every stage records its own application, what a run records is its course. -/
theorem seen_eq {ρ : Type} {seen : σ → List ρ} {record : Call σ ε → ρ}
    (hnote : ∀ note state, note.level = .debug → seen (Journal.note note state) = seen state)
    (hrecord : ∀ call : Call σ ε, call.toStep ∈ pipeline.steps →
      seen call.after = seen call.before ++ [record call])
    (h : Course pipeline value state calls ending) :
    seen ending.2 = seen state ++ calls.map record := by
  induction h with
  | finished => simp
  | passed happly _ ih =>
    rw [ih fun call hcall => hrecord call (List.mem_cons_of_mem _ hcall),
      Call.seen_ofStage hnote (hrecord _ List.mem_cons_self) happly, List.append_assoc]
    rfl
  | failed happly =>
    exact (hnote _ _ rfl).trans (Call.seen_ofStage hnote (hrecord _ List.mem_cons_self) happly)
  | raised happly => exact Call.seen_ofStage hnote (hrecord _ List.mem_cons_self) happly

end Course

/-- **A run applies the stages up to the first that raises an error.** The applications are those of
the one course that there is: from the first stage on, each once, to what the one before made and
under the options given or else the default ones; so anything that the stages record of their own
application is recorded once for each of them and in this order. If no stage raises an error, all
are applied and the run is a success with what the last one made. If one does, it is the last one
that is applied, and the run fails with that error if the stage answers for it, and otherwise the
error goes on upwards and there is no outcome; a stage that answers for a family answers for the
faults of the families inside it. A longer pipeline goes on behind a success and leaves any other
ending as it is.

Of the errors it is assumed (`Worded`) that all of them can be put into words, which is done for
every error that a stage answers for; and of the default options, that there are such. -/
theorem run_first_raised [Journal σ] [Worded ε] (pipeline : Pipeline σ ε α β) (value : α)
    (state : σ) :
    (∃ calls : List (Call σ ε),
      (∀ others ending, Course pipeline value state others ending ↔
        others = calls ∧ ending = pipeline.run value state) ∧
      calls.map Call.toStep <+: pipeline.steps ∧
      ((calls.map Call.toStep = pipeline.steps ∧ (∀ call ∈ calls, call.raised? = none) ∧
          ∃ made after, pipeline.run value state = (.ok (.success made), after)) ∨
        ∃ passed last error, calls = passed ++ [last] ∧ (∀ call ∈ passed, call.raised? = none) ∧
          last.raised? = some error ∧
          pipeline.run value state = if last.stage.declares error then
              (.ok (.failure error), Journal.note (last.stage.failureNote error) last.after)
            else (.error error, last.after)) ∧
      ∀ {ρ : Type} (seen : σ → List ρ) (record : Call σ ε → ρ),
        (∀ note state, note.level = .debug → seen (Journal.note note state) = seen state) →
        (∀ call : Call σ ε, call.toStep ∈ pipeline.steps →
          seen call.after = seen call.before ++ [record call]) →
        seen (pipeline.run value state).2 = seen state ++ calls.map record) ∧
    (∀ {γ : Type} (second : Pipeline σ ε β γ),
      (∀ made after, pipeline.run value state = (.ok (.success made), after) →
        (pipeline.append second).run value state = second.run made after) ∧
      (∀ error after, pipeline.run value state = (.ok (.failure error), after) →
        (pipeline.append second).run value state = (.ok (.failure error), after)) ∧
      ∀ error after, pipeline.run value state = (.error error, after) →
        (pipeline.append second).run value state = (.error error, after)) ∧
    ∀ (family : Family) (trouble : Trouble),
      trouble.isIn family = true ↔ ∃ fault, trouble = .fault fault ∧
        Relation.ReflTransGen (fun inner outer => Family.parent? inner = some outer)
          fault.family family := by
  obtain ⟨calls, hcourse⟩ := course_run pipeline value state
  refine ⟨⟨calls, ?_, hcourse.steps_prefix, hcourse.ends, ?_⟩, ?_, ?_⟩
  · intro others ending
    constructor
    · exact hcourse.unique
    · rintro ⟨rfl, rfl⟩
      exact hcourse
  · intro ρ seen record hnote hrecord
    exact hcourse.seen_eq hnote hrecord
  · intro γ second
    exact ⟨fun _ _ => run_append_of_success second, fun _ _ => run_append_of_failure second,
      fun _ _ => run_append_of_error second⟩
  · exact fun family trouble => Trouble.isIn_iff

/-- A stage that notes its name and adds to a number below ten. -/
def adding (name : Text) : Stage (List Note) Trouble Int Int Int where
  name
  declares := Trouble.isIn .step
  defaults := 1
  apply amount value := fun notes =>
    (if value < 10 then .ok (value + amount) else .error (.fault .noEvents),
      notes ++ [⟨.info, name⟩])

/-- The third of four stages fails: the fourth is not applied. -/
theorem run_first_raised_third :
    ∃ calls : List (Call (List Note) Trouble),
      calls.map (fun call => call.stage.name) = (["first", "second", "third"] : List Text) ∧
      ((cons (adding "first") none <| cons (adding "second") (some 9) <|
        cons (adding "third") none <| cons (adding "fourth") none .nil).run 0 []).1 =
          .ok (.failure (.fault .noEvents)) := by
  obtain ⟨⟨calls, -, -, -, hseen⟩, -⟩ :=
    run_first_raised (cons (adding "first") none <| cons (adding "second") (some 9) <|
      cons (adding "third") none <| cons (adding "fourth") none .nil) 0 ([] : List Note)
  have hnames := hseen
    (fun notes => (notes.filter fun note => note.level = .info).map Note.text)
    (fun call => call.stage.name)
    (by
      intro note notes hlevel
      show List.map Note.text (List.filter _ (notes ++ [note])) = _
      simp [hlevel])
    (by
      rintro ⟨step, value, before⟩ hstep
      simp only [steps, List.mem_cons, List.not_mem_nil, or_false] at hstep
      rcases hstep with rfl | rfl | rfl | rfl <;> simp [Call.after, adding])
  exact ⟨calls, hnames.symm, rfl⟩

end Pipeline

end Agenda
