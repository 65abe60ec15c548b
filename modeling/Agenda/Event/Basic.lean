import Agenda.Calendar.Moment
import Agenda.Language.Basic
import Agenda.Text.LowerCase
import Agenda.Text.Shorten

/-!
# Events

An event starts at a moment and lasts a number of minutes. That its end is a moment of the calendar
is part of the type, so that every event has an end and nothing computed from ends can leave the
calendar. There are five kinds of events, each with the token that names it in documents and styles.
-/

namespace Agenda

/-! ### Kinds -/

inductive EventKind
  | talk
  | meal
  | pause
  | leisure
  | transport
deriving Repr, DecidableEq

namespace EventKind

/-- The kinds in the order in which a token is compared with theirs. -/
def all : List EventKind := [talk, meal, pause, leisure, transport]

/-- The token of a kind in documents, and its style class in rendered pages. -/
def token : EventKind → Text
  | talk => "talk"
  | meal => "meal"
  | pause => "break"
  | leisure => "fun"
  | transport => "transport"

/-- The name of a kind in listings: its token in capitals. -/
def listingName : EventKind → Text
  | talk => "TALK"
  | meal => "MEAL"
  | pause => "BREAK"
  | leisure => "FUN"
  | transport => "TRANSPORT"

/-- The kind that a token names; the token may stand between blanks and in letters of either case.
-/
def ofToken? (token : Text) : Option EventKind :=
  all.find? (·.token == Text.lower (Text.trim token))

theorem mem_all (kind : EventKind) : kind ∈ all := by cases kind <;> simp [all]

theorem ofToken?_token (kind : EventKind) : ofToken? kind.token = some kind := by
  cases kind <;> decide

end EventKind

/-! ### Entries of a timetable -/

/-- One entry of a timetable. -/
structure Event where
  kind : EventKind
  title : Text
  start : Moment
  /-- The length in minutes. -/
  duration : Nat
  description : Option Text
  language : Option Language
  speakers : List Text
  end_lt : start.number + duration < Moment.count
deriving Repr, DecidableEq

namespace Event

/-- The title of an event whose document gives none. -/
def untitled : Text := "(no title)"

/-- The most characters that a title takes in a cell of the calendar. -/
def cellLength : Nat := 30

def finish (event : Event) : Moment := .ofNumber (event.start.number + event.duration) event.end_lt

/-- The title cut to a number of characters. -/
def shortTitle (event : Event) (length : Int) : Text := Text.shorten event.title length

def speakerLine (event : Event) : Text := Text.join ", " event.speakers

/-- What a cell of the calendar shows: for a talk with speakers the speakers, otherwise the title.
-/
def cellText (event : Event) : Text :=
  match event.kind, event.speakers with
  | .talk, [speaker] => speaker
  | .talk, [first, second] => first ++ " and " ++ second
  | .talk, first :: _ :: _ :: _ => first ++ " et al."
  | _, _ => event.shortTitle cellLength

@[simp] theorem number_finish (event : Event) :
    event.finish.number = event.start.number + event.duration :=
  Moment.number_ofNumber ..

theorem start_le_finish (event : Event) : event.start.number ≤ event.finish.number := by simp

end Event

end Agenda
