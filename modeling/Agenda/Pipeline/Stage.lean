import Agenda.Fault
import Agenda.Journal

/-!
# Stages

A stage turns a value into another one, under options, and may change the state of the run. It
declares which errors are failures of its own. Running it makes these into failing outcomes; every
other error goes on upwards, and then there is no outcome. A stage that has been run ends in a
success with a value or in a failure with an error that it declares.
-/

namespace Agenda

/-! ### Outcomes -/

instance decidableEqExcept {ε α : Type} [DecidableEq ε] [DecidableEq α] : DecidableEq (Except ε α)
  | .ok a, .ok b => decidable_of_iff (a = b) (by simp)
  | .error a, .error b => decidable_of_iff (a = b) (by simp)
  | .ok _, .error _ => isFalse nofun
  | .error _, .ok _ => isFalse nofun

/-- How a step ended. -/
inductive Outcome (ε α : Type)
  | success (value : α)
  | failure (error : ε)
deriving Repr, DecidableEq

namespace Outcome

variable {ε ε' α : Type}

def ok : Outcome ε α → Bool
  | success _ => true
  | failure _ => false

def ofError? : Option ε → Except Trouble (Outcome ε α)
  | some error => .ok (failure error)
  | none => .error .missingCause

/-- The value of a success; the error of a failure is raised. -/
def unwrap : Outcome ε α → Except ε α
  | success value => .ok value
  | failure error => .error error

def mapError (convert : ε → ε') : Outcome ε α → Outcome ε' α
  | success value => success value
  | failure error => failure (convert error)

end Outcome

/-! ### Steps of the work -/

/-- Errors that can be put into words: every one of them has its words, and finding these fails with
no error of its own and changes no state. -/
class Worded (ε : Type) where
  words : ε → Text

instance : Worded Trouble := ⟨Trouble.message⟩

/-- What is done in a state, with an error or a value for its result. The state is kept when an
error is raised. -/
abbrev Action (σ ε α : Type) := ExceptT ε (StateM σ) α

/-- One step of the work, with options of its own. -/
structure Stage (σ ε ω α β : Type) where
  name : Text
  /-- The errors that the stage answers for. -/
  declares : ε → Bool
  /-- The options used when none are given. -/
  defaults : ω
  apply : ω → α → Action σ ε β

namespace Stage

variable {σ ε ω α β : Type} [Journal σ] [Worded ε]

def startNote (stage : Stage σ ε ω α β) : Note := ⟨.debug, "Stage " ++ stage.name ++ ": pokrecem"⟩

def failureNote (stage : Stage σ ε ω α β) (error : ε) : Note :=
  ⟨.debug, "Stage " ++ stage.name ++ ": neuspjeh (" ++ Worded.words error ++ ")"⟩

def runWith (stage : Stage σ ε ω α β) (options : ω) (value : α) : Action σ ε (Outcome ε β) :=
  fun state =>
    match stage.apply options value (Journal.note stage.startNote state) with
    | (.ok result, state) => (.ok (.success result), state)
    | (.error error, state) =>
      if stage.declares error then
        (.ok (.failure error), Journal.note (stage.failureNote error) state)
      else (.error error, state)

/-- Runs a stage under its default options. -/
def run (stage : Stage σ ε ω α β) (value : α) : Action σ ε (Outcome ε β) :=
  stage.runWith stage.defaults value

/-- Runs a stage under the options given, or under its default options if there are none. -/
def chain (stage : Stage σ ε ω α β) (options : Option ω) (value : α) :
    Action σ ε (Outcome ε β) :=
  match options with
  | none => stage.run value
  | some options => stage.runWith options value

end Stage

/-- Goes on with a stage after a success; a failure stays and the stage is not run. -/
def Outcome.andThen {σ ε ω α β : Type} [Journal σ] [Worded ε] (outcome : Outcome ε α)
    (stage : Stage σ ε ω α β) (options : Option ω) : Action σ ε (Outcome ε β) :=
  match outcome with
  | .success value => stage.chain options value
  | .failure error => pure (.failure error)

end Agenda
