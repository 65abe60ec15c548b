import Agenda.Pipeline.Basic

/-!
# Actions that only note

Most actions of a run change nothing but what has been noted. Such an action has one result in all
states that differ from a given one by notes alone (`Action.Gives`), and this carries over to
sequences, to stages and to pipelines: a stage that answers for an error turns it into a failing
outcome, and behind a failing outcome nothing is run.
-/

namespace Agenda

variable {σ ε ω α β γ : Type}

namespace Action

variable {action : Action σ ε α} {next : α → Action σ ε β} {value : α} {error : ε}

theorem bind_of_ok {before after : σ} (h : action before = (.ok value, after)) :
    (action >>= next) before = next value after := by
  show ExceptT.bindCont next (action before).1 (action before).2 = _
  rw [h]
  rfl

theorem bind_of_error {before after : σ} (h : action before = (.error error, after)) :
    (action >>= next) before = (.error error, after) := by
  show ExceptT.bindCont next (action before).1 (action before).2 = _
  rw [h]
  rfl

/-- An action that looks at the state first goes on with it. -/
theorem bind_get (next : σ → Action σ ε α) (state : σ) :
    ((get : Action σ ε σ) >>= next) state = next state state := rfl

end Action

variable [Journal σ]

theorem Journal.noteAll_append (first second : List Note) (state : σ) :
    noteAll (first ++ second) state = noteAll second (noteAll first state) := by
  rw [noteAll, noteAll, noteAll, List.foldl_append]

namespace Action

/-- **Whatever has been noted since a state, an action has this result** and does nothing but add
notes. -/
def Gives (state : σ) (action : Action σ ε α) (result : Except ε α) : Prop :=
  ∀ notes, ∃ added,
    action (Journal.noteAll notes state) = (result, Journal.noteAll (notes ++ added) state)

variable {state : σ} {action : Action σ ε α} {next : α → Action σ ε β} {value : α} {error : ε}

/-! ### Sequences -/

theorem gives_pure (state : σ) (value : α) :
    Gives state (pure value : Action σ ε α) (.ok value) := by
  intro notes
  refine ⟨[], ?_⟩
  rw [List.append_nil]
  rfl

theorem gives_throw (state : σ) (error : ε) :
    Gives state (throw error : Action σ ε α) (.error error) := by
  intro notes
  refine ⟨[], ?_⟩
  rw [List.append_nil]
  rfl

theorem gives_noteAll (state : σ) (notes : List Note) :
    Gives state (modify (Journal.noteAll notes) : Action σ ε Unit) (.ok ()) := by
  intro before
  refine ⟨notes, ?_⟩
  rw [Journal.noteAll_append]
  rfl

theorem gives_note (state : σ) (note : Note) :
    Gives state (modify (Journal.note note) : Action σ ε Unit) (.ok ()) :=
  gives_noteAll state [note]

theorem Gives.bind {result : Except ε β} (h : Gives state action (.ok value))
    (hnext : Gives state (next value) result) : Gives state (action >>= next) result := by
  intro notes
  obtain ⟨added, haction⟩ := h notes
  obtain ⟨more, hresult⟩ := hnext (notes ++ added)
  refine ⟨added ++ more, ?_⟩
  rw [bind_of_ok haction, hresult, List.append_assoc]

theorem Gives.bind_error (h : Gives state action (.error error)) :
    Gives state (action >>= next) (.error error) := by
  intro notes
  obtain ⟨added, haction⟩ := h notes
  exact ⟨added, bind_of_error haction⟩

end Action

/-! ### Stages -/

namespace Stage

variable [Worded ε] {stage : Stage σ ε ω α β} {state : σ} {options : ω} {value : α}

theorem gives_runWith_ok {result : β}
    (h : Action.Gives state (stage.apply options value) (.ok result)) :
    Action.Gives state (stage.runWith options value) (.ok (.success result)) := by
  intro notes
  obtain ⟨added, happly⟩ := h (notes ++ [stage.startNote])
  refine ⟨[stage.startNote] ++ added, ?_⟩
  have hstarted : stage.apply options value
      (Journal.note stage.startNote (Journal.noteAll notes state)) =
        (.ok result, Journal.noteAll (notes ++ [stage.startNote] ++ added) state) := by
    rw [← happly, Journal.noteAll_append]
    rfl
  simp only [runWith, hstarted, List.append_assoc]

/-- An error that a stage answers for becomes a failing outcome. -/
theorem gives_runWith_error {error : ε}
    (h : Action.Gives state (stage.apply options value) (.error error))
    (hdeclares : stage.declares error = true) :
    Action.Gives state (stage.runWith options value) (.ok (.failure error)) := by
  intro notes
  obtain ⟨added, happly⟩ := h (notes ++ [stage.startNote])
  refine ⟨[stage.startNote] ++ added ++ [stage.failureNote error], ?_⟩
  have hstarted : stage.apply options value
      (Journal.note stage.startNote (Journal.noteAll notes state)) =
        (.error error, Journal.noteAll (notes ++ [stage.startNote] ++ added) state) := by
    rw [← happly, Journal.noteAll_append]
    rfl
  simp only [runWith, hstarted, hdeclares, if_true, ← List.append_assoc]
  rw [Journal.noteAll_append (notes ++ [stage.startNote] ++ added)]
  rfl

end Stage

/-! ### Pipelines -/

namespace Pipeline

variable [Worded ε] {stage : Stage σ ε ω α β} {state : σ} {value : α}

theorem gives_run_nil (state : σ) (value : α) :
    Action.Gives state ((nil : Pipeline σ ε α α).run value) (.ok (.success value)) :=
  Action.gives_pure state _

/-- A pipeline goes on with what its first stage made. -/
theorem gives_run_cons {options : Option ω} {rest : Pipeline σ ε β γ} {made : β}
    {outcome : Outcome ε γ}
    (h : Action.Gives state (stage.chain options value) (.ok (.success made)))
    (hrest : Action.Gives state (rest.run made) (.ok outcome)) :
    Action.Gives state ((cons stage options rest).run value) (.ok outcome) :=
  h.bind hrest

/-- The failure of its first stage is the failure of a pipeline. -/
theorem gives_run_cons_failure {options : Option ω} {rest : Pipeline σ ε β γ} {error : ε}
    (h : Action.Gives state (stage.chain options value) (.ok (.failure error))) :
    Action.Gives state ((cons stage options rest).run value) (.ok (.failure error)) := by
  refine h.bind ?_
  rw [runFrom_failure]
  exact Action.gives_pure state _

end Pipeline

end Agenda
