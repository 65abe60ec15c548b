import Agenda.Template.Basic
import Agenda.Timetable.Basic

/-!
# The booklet of abstracts

A section for every day on which an event starts, and in it an entry for every talk and every
leisure event of that day, in the order of their starts. Meals, pauses and transport open a section
but have no entry. The text is made in one pass that remembers the day of the event before.
-/

namespace Agenda.Booklet

def braced (t : Text) : Text := "\x7b" ++ t ++ "\x7d"

def hasAbstract : EventKind → Bool
  | .talk | .leisure => true
  | .meal | .pause | .transport => false

def sectionLine (day : Day) : Text := "\\section" ++ braced day.heading ++ "\n"

/-- The title of an entry, behind the mark of the language if there is one. -/
def titleLine (event : Event) : Text :=
  let mark : Text := match event.language with
    | none => []
    | some language => "\\" ++ language.alpha3 ++ " "
  "\\subsection" ++ braced (mark ++ event.title) ++ "\n"

/-- The time and the speakers of an entry. -/
def subtitleLine (event : Event) : Text :=
  let speakers : Text := if event.speakers.isEmpty then [] else " - " ++ event.speakerLine
  "\\paragraph\x7b\x7d \\textit" ++ braced (event.start.clock ++ speakers) ++ "\n"

/-- The description of an entry; an empty one counts as none. -/
def descriptionText (event : Event) : Text :=
  match event.description with
  | none | some [] => []
  | some description => "\\paragraph\x7b\x7d " ++ description

def entry (event : Event) : Text :=
  titleLine event ++ subtitleLine event ++ descriptionText event ++ "\n\n"

/-- The entry of an event, if events of its kind have one. -/
def entryOrNothing (event : Event) : Text := if hasAbstract event.kind then entry event else []

/-- The sections of some events, when the event before them was on `current`. -/
def sectionsFrom (current : Option Day) : List Event → Text
  | [] => []
  | event :: rest =>
    (if current = some event.start.day then [] else sectionLine event.start.day) ++
      entryOrNothing event ++ sectionsFrom (some event.start.day) rest

def ofTimetable (timetable : Timetable) : Text :=
  sectionsFrom none (Timetable.byStart timetable.events)

/-- The keys of a template for booklets with their values, in the order in which they are filled. -/
def bindings (timetable : Timetable) : List (Text × Text) := [
  ("BEGIN_DATE", timetable.window.firstDay.heading),
  ("END_DATE", timetable.window.lastDay.heading),
  ("ABSTRACTS", ofTimetable timetable)]

/-- The booklet of a timetable inside the template at a path, or inside the bundled one. -/
def stage : Stage World Trouble (Option Text) Timetable Text where
  name := "AbstractsGenerator"
  declares := Trouble.isIn .rendering
  defaults := none
  apply path timetable := do
    let template ← Template.load path "template_abstex.tex"
    World.orFault (Template.fillAll template (bindings timetable))

end Agenda.Booklet
