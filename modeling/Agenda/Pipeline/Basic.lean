import Agenda.Pipeline.Stage

/-!
# Pipelines

A pipeline is a list of stages with their options in which every stage takes what the one before it
gives. Main statement: running two pipelines one behind the other is running their concatenation
(`run_append`).
-/

namespace Agenda

/-- Stages from values of one type to values of another, each with its options or none. -/
inductive Pipeline (σ ε : Type) : Type → Type → Type 1
  | nil {α : Type} : Pipeline σ ε α α
  | cons {ω α β γ : Type} (stage : Stage σ ε ω α β) (options : Option ω)
      (rest : Pipeline σ ε β γ) : Pipeline σ ε α γ

namespace Pipeline

variable {σ ε : Type}

def append : {α β γ : Type} →
    Pipeline σ ε α β → Pipeline σ ε β γ → Pipeline σ ε α γ
  | _, _, _, nil, second => second
  | _, _, _, cons stage options rest, second => cons stage options (append rest second)

/-- Goes on from an outcome through the stages, from the first to the last. -/
def runFrom [Journal σ] [Worded ε] : {α β : Type} →
    Pipeline σ ε α β → Outcome ε α → Action σ ε (Outcome ε β)
  | _, _, nil, outcome => pure outcome
  | _, _, cons stage options rest, outcome => do
    runFrom rest (← outcome.andThen stage options)

def run [Journal σ] [Worded ε] {α β : Type} (pipeline : Pipeline σ ε α β) (value : α) :
    Action σ ε (Outcome ε β) :=
  pipeline.runFrom (.success value)

variable {α β γ : Type}

theorem runFrom_append [Journal σ] [Worded ε] (first : Pipeline σ ε α β)
    (second : Pipeline σ ε β γ) (outcome : Outcome ε α) :
    (first.append second).runFrom outcome = (do second.runFrom (← first.runFrom outcome)) := by
  induction first with
  | nil => simp [append, runFrom]
  | cons stage options rest ih => simp [append, runFrom, ih]

theorem run_append [Journal σ] [Worded ε] (first : Pipeline σ ε α β)
    (second : Pipeline σ ε β γ) (value : α) :
    (first.append second).run value = (do second.runFrom (← first.run value)) :=
  runFrom_append first second (.success value)

theorem runFrom_failure [Journal σ] [Worded ε] (pipeline : Pipeline σ ε α β) (error : ε) :
    pipeline.runFrom (.failure error) = (pure (.failure error) : Action σ ε _) := by
  induction pipeline with
  | nil => rfl
  | cons stage options rest ih => simp [runFrom, Outcome.andThen, ih]

end Pipeline

end Agenda
