import Agenda.Template.Basic
import Agenda.Text.Html
import Agenda.Timetable.Basic

/-!
# The page of a timetable

A page has a column for every day of the window. A column is a row of pieces: the heading of the
day, the events that start on it, and the times at which they start and end. Every event is followed
by the time of its end; the time of its start stands before it only if no event has just ended at
that moment. Titles, speakers and times are written so that no character of them is taken for
markup. Descriptions are written in a language of their own and are turned into markup by a
converter, which is not part of the program: whatever runs the program brings one (`Converter`).
-/

namespace Agenda

/-- What turns a description into markup, or fails with some words. -/
class Converter where
  convert : Text → Except Text Text

namespace Page

inductive Piece
  | heading (day : Day)
  | time (moment : Moment)
  | event (event : Event)
deriving DecidableEq

/-- The pieces of some events when the event before them ended at `previous`. -/
def eventPieces (previous : Option Moment) : List Event → List Piece
  | [] => []
  | event :: rest =>
    (if previous = some event.start then [] else [.time event.start]) ++
      .event event :: .time event.finish :: eventPieces (some event.finish) rest

def columnPieces (day : Day) (events : List Event) : List Piece :=
  .heading day :: eventPieces none events

/-- The flag of a language; a question mark stands for those that have none. -/
def flag (language : Language) : Text :=
  if language.alpha2 = "fr".toList then "🇫🇷"
  else if language.alpha2 = "en".toList then "🇬🇧"
  else "?"

/-- The height of an event in per cent of a column, rounded down. -/
def height (dayMinutes : Int) (event : Event) : Int := (event.duration * 100 : Int) / dayMinutes

/-- The title of an event behind the flag of its language. -/
def titleHtml (event : Event) : Text :=
  let mark : Text := match event.language with
    | none => []
    | some language => flag language ++ " "
  mark ++ "<b>" ++ Text.htmlFull event.title ++ "</b><br>"

def speakersHtml (event : Event) : Text :=
  if event.kind = .talk ∧ event.speakers ≠ [] then
    "<span>" ++ Text.htmlFull event.speakerLine ++ "</span>"
  else []

/-- The block of an event with its description as markup. -/
def eventHtml (dayMinutes : Int) (event : Event) (description : Text) : Text :=
  "\t<div class=\"event " ++ event.kind.token ++ "\" style=\"height: " ++
    Text.ofInt (height dayMinutes event) ++ "%;\"><div class=\"title\">" ++ titleHtml event ++
    speakersHtml event ++ "</div>\n<div class=\"abstract\">" ++ description ++ "</div></div>"

section

variable [Converter]

/-- The description of an event as markup; there may be none, and an empty one is not converted. -/
def descriptionHtml (description : Option Text) : Except Trouble Text :=
  match description with
  | none | some [] => .ok []
  | some description => (Converter.convert description).mapError .conversion

/-- A piece of a column as it is written. -/
def pieceHtml (dayMinutes : Int) : Piece → Except Trouble Text
  | .heading day => .ok ("<h2>" ++ day.heading ++ "</h2>")
  | .time moment => .ok ("<span class=\"time\">" ++ moment.clock ++ "</span>")
  | .event event => (descriptionHtml event.description).map (eventHtml dayMinutes event)

def columnHtml (dayMinutes : Int) (day : Day) (events : List Event) : Except Trouble Text := do
  let pieces ← (columnPieces day events).mapM (pieceHtml dayMinutes)
  return "<div class=\"day\">" ++ pieces.flatten ++ "</div>\n"

def ofTimetable (dayMinutes : Int) (timetable : Timetable) : Except Trouble Text := do
  let columns ← timetable.window.days.mapM fun day =>
    columnHtml dayMinutes day (timetable.eventsOn day)
  return columns.flatten

end

structure Options where
  template : Option Text := none
  /-- The number of minutes that fill a column. -/
  dayMinutes : Int := 480

/-- The page of a timetable inside the template at a path, or inside the bundled one. -/
def stage [Converter] : Stage World Trouble Options Timetable Text where
  name := "HTMLGenerator"
  declares := Trouble.isIn .rendering
  defaults := {}
  apply options timetable := do
    if options.dayMinutes ≤ 0 then throw (.fault (.badDayLength options.dayMinutes))
    let template ← Template.load options.template "template.html"
    let page ← World.orTrouble (ofTimetable options.dayMinutes timetable)
    World.orFault (Template.fill template "CALENDAR" page)

end Page

end Agenda
