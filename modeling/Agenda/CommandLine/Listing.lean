import Agenda.Text.Quoted
import Agenda.Timetable.Basic

/-!
# Listings

The listing of what was read from a document, for inspection: every event on a line with all its
fields, and the window of the events.
-/

namespace Agenda.CommandLine

def shownText : Option Text → Text
  | none => "None"
  | some t => Text.quoted t

def shownMoment (moment : Moment) : Text :=
  let date := moment.day.date
  let numbers := [date.year, date.month, date.day, moment.hour, moment.minute]
  "datetime.datetime(" ++ Text.join ", " (numbers.map Text.ofNat) ++ ")"

def shownLanguage : Option Language → Text
  | none => "None"
  | some language =>
    "Language(alpha_2=" ++ Text.quoted language.alpha2 ++ ", alpha_3=" ++
      Text.quoted language.alpha3 ++ ", name=" ++ Text.quoted language.name ++ ")"

/-- Several texts between parentheses; a comma stands behind a single one. -/
def shownTexts : List Text → Text
  | [t] => "(" ++ Text.quoted t ++ ",)"
  | ts => "(" ++ Text.join ", " (ts.map Text.quoted) ++ ")"

def shownEvent (event : Event) : Text :=
  "Event(kind=<EventKind." ++ event.kind.listingName ++ ": " ++ Text.quoted event.kind.token ++
    ">, title=" ++ Text.quoted event.title ++ ", start=" ++ shownMoment event.start ++
    ", duration=" ++ Text.ofNat event.duration ++ ", description=" ++
    shownText event.description ++ ", language=" ++ shownLanguage event.language ++
    ", speakers=" ++ shownTexts event.speakers ++ ")"

def shownWindow (window : Window) : Text :=
  "BoundingBox(top_left=" ++ shownMoment window.topLeft ++ ", bottom_right=" ++
    shownMoment window.bottomRight ++ ")\nDana: " ++ Text.ofInt window.dayCount ++ ", sati: " ++
    Text.ofNat window.firstHour ++ "-" ++ Text.ofNat window.lastHour ++ "\n"

def listing (events : List Event) : Text :=
  let window : Text := match Window.ofEvents? events with
    | none => "(nema dogadjaja)\n"
    | some window => shownWindow window
  "=== DOGADJAJI ===\n" ++ events.flatMap (shownEvent · ++ ['\n']) ++
    "\n--- BOUNDING BOX ---\n" ++ window ++ "=================\n"

end Agenda.CommandLine
