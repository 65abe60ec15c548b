import Agenda.Template.Basic
import Agenda.Timetable.Basic

/-!
# The picture of a timetable

A timetable drawn as a calendar: the columns are days, the rows are hours, and every event is a box
whose height is its length. The hours, the lines between hours and between days, and the headings of
the days make the grid; it depends on the window alone. One node for each event follows, in the
order of the events.
-/

namespace Agenda.Picture

def braced (t : Text) : Text := "\x7b" ++ t ++ "\x7d"

/-- A number of hundredths with two decimal places. -/
def hundredths (n : Nat) : Text := Text.ofNat (n / 100) ++ "." ++ Text.padNat 2 (n % 100)

/-- The length of an event in hundredths of an hour, rounded to the nearest one. No length in
minutes lies halfway between two of them. -/
def height (minutes : Nat) : Text := hundredths ((10 * minutes + 3) / 6)

/-- The row of a moment: its hour with the minutes as hundredths of an hour, rounded down. -/
def row (moment : Moment) : Text :=
  Text.padNat 2 moment.hour ++ "." ++ Text.padNat 2 (moment.minute * 5 / 3)

/-- The head of a loop over the hours of a window. -/
def hourLoop (window : Window) : Text :=
  "\n    \\foreach \\time   [evaluate=\\time] in " ++
    braced (Text.ofNat window.firstHour ++ ",...," ++ Text.ofNat window.lastHour)

/-- The name of every hour at the left edge. -/
def hourMarks (window : Window) : Text :=
  hourLoop window ++ "\n        \\node[anchor=east] at (1,\\time) \x7b\\time:00\x7d;"

def hourLines (window : Window) : Text :=
  hourLoop window ++ "\n        \\draw (1,\\time) -- (" ++ Text.ofInt (window.dayCount + 1) ++
    ", \\time);"

/-- A line between every two days, beginning an hour above the first one. -/
def dayLines (window : Window) : Text :=
  "\n    % Draw some day dividers.\n    \\foreach \\day   [evaluate=\\day] in " ++
    braced ("1,...," ++ Text.ofInt (window.dayCount + 1)) ++
    "\n        \\draw (\\day," ++ Text.ofInt ((window.firstHour : Int) - 1) ++ ") -- (\\day," ++
    Text.ofNat window.lastHour ++ ");"

/-- The heading of a day over its column; columns are counted from 1. -/
def dayHeader (window : Window) (day : Day) (column : Nat) : Text :=
  "\n    \\node[anchor=south] at (" ++ Text.ofNat column ++ ".5, " ++
    Text.ofInt ((window.firstHour : Int) - 1) ++ ".5) " ++ braced day.heading ++ ";"

def dayHeaders (window : Window) : List Text :=
  (window.days.zipIdx 1).map fun (day, column) => dayHeader window day column

/-- All of a picture but its events. -/
def grid (window : Window) : Text :=
  hourMarks window ++ hourLines window ++ dayLines window ++ (dayHeaders window).flatten

/-- The column of an event: the place of the day on which it starts, counted from 1. -/
def column (window : Window) (event : Event) : Int := window.dayIndex event.start.day + 1

def node (window : Window) (event : Event) : Text :=
  "\n    \\node[" ++ event.kind.token ++ "=" ++ braced (height event.duration) ++
    "\x7b1\x7d] at (" ++ Text.ofInt (column window event) ++ "," ++ row event.start ++ ") " ++
    braced event.cellText ++ ";"

def nodes (timetable : Timetable) : List Text := timetable.events.map (node timetable.window)

def ofTimetable (timetable : Timetable) : Text :=
  grid timetable.window ++ (nodes timetable).flatten

def sizeNote (timetable : Timetable) : Text :=
  let window := timetable.window
  "TikZ: " ++ Text.ofNat timetable.events.length ++ " dogadjaja, " ++ Text.ofInt window.dayCount ++
    " dana, sati " ++ Text.ofNat window.firstHour ++ "-" ++ Text.ofNat window.lastHour

/-- The picture of a timetable inside the template at a path, or inside the bundled one. -/
def stage : Stage World Trouble (Option Text) Timetable Text where
  name := "TikzGenerator"
  declares := Trouble.isIn .rendering
  defaults := none
  apply path timetable := do
    let template ← Template.load path "template_tikz.tex"
    World.note .debug (sizeNote timetable)
    World.orFault (Template.fill template "CALENDAR" (ofTimetable timetable))

example : height 45 = "0.75".toList ∧ height 100 = "1.67".toList := by decide

end Agenda.Picture
