import Agenda.Text.Basic

/-!
# Journals

What a run reports about itself besides its result: notes of four levels. Anything that notes can be
written to is a journal.
-/

namespace Agenda

/-- How much a note matters. -/
inductive Level
  | debug
  | info
  | warning
  | error
deriving Repr, DecidableEq

namespace Level

def rank : Level → Nat
  | debug => 0
  | info => 1
  | warning => 2
  | error => 3

def name : Level → Text
  | debug => "DEBUG"
  | info => "INFO"
  | warning => "WARNING"
  | error => "ERROR"

end Level

/-- One report of a run. -/
structure Note where
  level : Level
  text : Text
deriving Repr, DecidableEq

/-- States that notes are written to. -/
class Journal (σ : Type) where
  note : Note → σ → σ

/-- A list of notes in the order in which they were written. -/
instance : Journal (List Note) := ⟨fun note notes => notes ++ [note]⟩

/-- Writes some notes one after the other. -/
def Journal.noteAll {σ : Type} [Journal σ] (notes : List Note) (state : σ) : σ :=
  notes.foldl (fun state note => Journal.note note state) state

end Agenda
