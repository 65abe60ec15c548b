import Agenda.Document.Reader

/-!
# Writing a document

The written form of events: the document that holds these events and nothing else. Every setting of
an event has a line of its own, the settings stand in a fixed order, and a description follows
behind an empty line. Many other documents are read as the same events.
-/

namespace Agenda

def Header.lineOf (setting : Text × Text) : Text := setting.1 ++ ": " ++ setting.2

namespace Event

/-- The settings of an event in the order in which they are written. -/
def settings (event : Event) : Header :=
  let language : Header := match event.language with
    | none => []
    | some language => [("lang", language.alpha2)]
  let time : Header := [("date", event.start.text), ("duration", Text.ofNat event.duration)]
  let speakers : Header := [("speakers", "[" ++ event.speakerLine ++ "]")]
  let subject : Header := [("type", event.kind.token), ("title", event.title)]
  subject ++ language ++ time ++ speakers

def blockText (event : Event) : Text :=
  let header := Text.unlines (event.settings.map Header.lineOf)
  match event.description with
  | none => header
  | some description => header ++ "\n\n" ++ description

end Event

/-- The document of some events, with a delimiter line between any two of them. -/
def writeDocument (events : List Event) : Text :=
  Text.join "\n---\n" (events.map Event.blockText)

end Agenda
