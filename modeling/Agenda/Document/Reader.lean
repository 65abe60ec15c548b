import Agenda.Document.Block
import Agenda.Document.Entry
import Agenda.Fault
import Agenda.Journal

/-!
# Reading a document

Every block of a document is read on its own. What becomes of a document with faulty blocks is the
caller's choice: the first one ends the reading, or all of them are left out with a warning each. A
reader remembers the blocks that its last reading left out.
-/

namespace Agenda

/-- What to do with a block that is not an event. -/
inductive Policy
  /-- The first faulty block ends the reading. -/
  | abort
  /-- Faulty blocks are left out. -/
  | skip
deriving Repr, DecidableEq

namespace Policy

def name : Policy → Text
  | abort => "abort"
  | skip => "skip"

def ofName? (word : Text) : Option Policy := [abort, skip].find? (·.name == word)

theorem ofName?_name (policy : Policy) : ofName? policy.name = some policy := by
  cases policy <;> decide

end Policy

/-- A block that is not an event, and why. -/
structure Rejection where
  block : Nat
  line : Nat
  cause : Fault
deriving Repr, DecidableEq

namespace Rejection

def fault (rejection : Rejection) : Fault := .inBlock rejection.cause rejection.block rejection.line

/-- The warning about a block that was left out. -/
def warning (rejection : Rejection) : Note :=
  ⟨.warning, "Upozorenje (linija " ++ Text.ofNat rejection.line ++ "): " ++
    rejection.cause.message ++ ". Preskačem blok " ++ Text.ofNat rejection.block ++ "."⟩

end Rejection

namespace Block

variable [Languages]

def event (block : Block) : Except Rejection Event :=
  (Event.ofBlockText block.text).mapError fun cause => ⟨block.number, block.line, cause⟩

/-- The events of those blocks that are events, in order. -/
def events (blocks : List Block) : List Event :=
  blocks.filterMap fun block => block.event.toOption

/-- The rejections of those blocks that are not events, in order. -/
def rejections (blocks : List Block) : List Rejection :=
  blocks.filterMap fun block =>
    match block.event with
    | .ok _ => none
    | .error rejection => some rejection

theorem length_events_add_length_rejections (blocks : List Block) :
    (events blocks).length + (rejections blocks).length = blocks.length := by
  induction blocks with
  | nil => rfl
  | cons block rest ih =>
    simp only [events, rejections, Except.toOption] at ih ⊢
    cases h : block.event <;> simp [h] <;> omega

end Block

/-- The blocks of a document and the rejections of the last reading. -/
structure Reader where
  blocks : List Block
  rejections : List Rejection

/-- The result of one reading: the events or what ended it, the reader afterwards, and the notes
written meanwhile. -/
structure Reading where
  result : Except Trouble (List Event)
  reader : Reader
  notes : List Note

namespace Reader

/-- A reader of a document that has read nothing yet. -/
def ofDocument (document : Text) : Reader := ⟨Block.ofDocument document, []⟩

def countNote (reader : Reader) (events : List Event) : Note :=
  ⟨.debug, "Parsirano " ++ Text.ofNat events.length ++ " dogadjaja iz " ++
    Text.ofNat reader.blocks.length ++ " blokova"⟩

variable [Languages]

/-- Reads the blocks that are left, when those before them gave `events` and `notes` and the reader
remembers their rejections. Only a fault of reading makes a rejection; any other one goes upwards.
-/
def readBlocks (policy : Policy) (reader : Reader) (events : List Event) (notes : List Note) :
    List Block → Reading
  | [] => ⟨.ok events, reader, notes ++ [reader.countNote events]⟩
  | block :: rest =>
    match Event.ofBlockText block.text with
    | .ok event => readBlocks policy reader (events ++ [event]) notes rest
    | .error cause =>
      if cause.isIn .reading then
        let rejection : Rejection := ⟨block.number, block.line, cause⟩
        match policy with
        | .abort => ⟨.error (.fault rejection.fault), reader, notes⟩
        | .skip =>
          readBlocks policy { reader with rejections := reader.rejections ++ [rejection] } events
            (notes ++ [rejection.warning]) rest
      else ⟨.error (.fault cause), reader, notes⟩

/-- Reads under a policy. What the last reading left out is forgotten first. -/
def readUnder (reader : Reader) (policy : Policy) : Reading :=
  readBlocks policy { reader with rejections := [] } [] [] reader.blocks

/-- Reads under the policy that a word names. Another word leaves the reader as it was. -/
def read (reader : Reader) (policy : Text) : Reading :=
  match Policy.ofName? policy with
  | none => ⟨.error (.unknownPolicy policy), reader, []⟩
  | some policy => reader.readUnder policy

theorem blocks_readBlocks (policy : Policy) (reader : Reader) (events : List Event)
    (notes : List Note) (left : List Block) :
    (readBlocks policy reader events notes left).reader.blocks = reader.blocks := by
  induction left generalizing reader events notes with
  | nil => rfl
  | cons block rest ih =>
    simp only [readBlocks]
    cases Event.ofBlockText block.text with
    | ok event => exact ih ..
    | error cause =>
      simp only []
      split
      · cases policy with
        | abort => rfl
        | skip => exact ih ..
      · rfl

@[simp] theorem blocks_read (reader : Reader) (policy : Text) :
    (reader.read policy).reader.blocks = reader.blocks := by
  simp only [read]
  split
  · rfl
  · exact blocks_readBlocks ..

end Reader

/-- The events of a document, under the policy that a word names. -/
def readDocument [Languages] (document policy : Text) : Reading :=
  (Reader.ofDocument document).read policy

end Agenda
