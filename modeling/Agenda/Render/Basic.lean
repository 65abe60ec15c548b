import Agenda.Document.Reader
import Agenda.Render.Booklet
import Agenda.Render.Page
import Agenda.Pipeline.Basic
import Agenda.Render.Picture

/-!
# Rendering a document

The steps from a document to one of its three renderings: reading, laying out, rendering. Each step
answers for faults of its own family.
-/

namespace Agenda

/-- Reading: the events of a document under a policy given by its name. -/
def Reader.stage [Languages] : Stage World Trouble Text Text (List Event) where
  name := "ParseTimetable"
  declares := Trouble.isIn .reading
  defaults := Policy.abort.name
  apply policy document := do
    let reading := readDocument document policy
    modify (Journal.noteAll reading.notes)
    match reading.result with
    | .ok events => return events
    | .error trouble => throw trouble

/-- Laying out: the timetable of some events; without events there is none. -/
def Timetable.stage : Stage World Trouble Unit (List Event) Timetable where
  name := "Layout"
  declares := Trouble.isIn .noEvents
  defaults := ()
  apply _ events :=
    match Timetable.ofEvents? events with
    | some timetable => return timetable
    | none => throw (.fault .noEvents)

/-- The renderings that there are. -/
inductive Format
  | picture
  | page
  | booklet
deriving Repr, DecidableEq

namespace Format

/-- The renderings in the order of their names. -/
def all : List Format := [booklet, page, picture]

def name : Format → Text
  | picture => "tikz"
  | page => "html"
  | booklet => "abstracts"

def ofName? (name : Text) : Option Format := all.find? (·.name == name)

/-- Whether a rendering is a source for the typesetting tool. -/
def isSource : Format → Bool
  | picture | booklet => true
  | page => false

theorem ofName?_name (format : Format) : ofName? format.name = some format := by
  cases format <;> decide

end Format

def renderer [Converter] (format : Format) (options : Page.Options) :
    Pipeline World Trouble Timetable Text :=
  match format with
  | .picture => .cons Picture.stage (some options.template) .nil
  | .page => .cons Page.stage (some options) .nil
  | .booklet => .cons Booklet.stage (some options.template) .nil

/-- The pipeline from a document to its rendering. -/
def compile [Languages] [Converter] (policy : Text) (format : Format) (options : Page.Options) :
    Pipeline World Trouble Text Text :=
  .cons Reader.stage (some policy) (.cons Timetable.stage none (renderer format options))

end Agenda
