import Agenda.Calendar.Field
import Agenda.Document.Header
import Agenda.Document.Section
import Agenda.Event.Basic

/-!
# Events of blocks

How the header and the description of a block make an event. The checks run in a fixed order and the
first one that fails is the fault of the block: the lines of the header, the kind, the date, the
duration. There is no partial event.
-/

namespace Agenda

namespace Event

def maxDuration : Nat := 4294967295

/-- The most digits that a number may be written with. -/
def maxDigits : Nat := 4300

/-- The kind of an event: a talk unless the header says otherwise. -/
def readKind (header : Header) : Except Fault EventKind :=
  match header.get? "type" with
  | none => .ok .talk
  | some token =>
    match EventKind.ofToken? token with
    | none => .error (.unknownKind token)
    | some kind => .ok kind

/-- The title of an event; an empty one counts as none. -/
def readTitle (header : Header) : Text :=
  match header.get? "title" with
  | none | some [] => untitled
  | some title => title

/-- The language of an event, if its code is known. -/
def readLanguage [Languages] (header : Header) : Option Language :=
  (header.get? "lang").bind Language.ofCode?

def readStart (header : Header) : Except Fault Moment :=
  match header.get? "date" with
  | none => .error (.missingSetting "date")
  | some value =>
    match Moment.ofText? value with
    | none => .error (.badDate value Fault.dateForm)
    | some start => .ok start

/-- The number of minutes that a text writes: digits only, not too many of them, and no more minutes
than the greatest duration. -/
def durationOf? (value : Text) : Option Nat :=
  if value ≠ [] ∧ value.all Text.isDigit ∧ value.length ≤ maxDigits ∧
      Text.natOfDigits value ≤ maxDuration
  then some (Text.natOfDigits value) else none

/-- The names in a list of speakers: what stands between commas, without brackets and outer blanks;
empty places are no names. -/
def speakersOf (value : Text) : List Text :=
  (((value.filter fun c => c ≠ '[' ∧ c ≠ ']').splitOn ',').map Text.trim).filter (· ≠ [])

def readSpeakers (header : Header) : List Text := speakersOf ((header.get? "speakers").getD [])

def ofHeader [Languages] (header : Header) (description : Option Text) : Except Fault Event := do
  let kind ← readKind header
  let start ← readStart header
  match header.get? "duration" with
  | none => .error (.missingSetting "duration")
  | some value =>
    match durationOf? value with
    | none => .error (.badDuration value (some .notNumber))
    | some duration =>
      if h : start.number + duration < Moment.count then
        .ok {
          kind, start, duration, description
          title := readTitle header
          language := readLanguage header
          speakers := readSpeakers header
          end_lt := h }
      else .error (.badDuration value (some .pastCalendar))

def ofBlockText [Languages] (t : Text) : Except Fault Event := do
  let sections := Sections.ofText t
  ofHeader (← Header.ofText sections.header) sections.description

end Event

end Agenda
