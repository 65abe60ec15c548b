import Agenda.Disk.Refusal

/-!
# Faults and troubles

Everything that can be wrong with a document or with a step of its rendering, by its cause. Faults
fall into families, each inside a wider one; a step of a pipeline declares a family and reports the
faults of it. The wording of every fault is in `Fault.message`.

What can stop a run is a trouble. Faults are reported by the step that declares them; the other
troubles are not faults of a document or a rendering and pass through every step.
-/

namespace Agenda

inductive Family
  | any
  | reading
  | field
  | kind
  | date
  | duration
  | setting
  | block
  | step
  | noEvents
  | rendering
  | template
  | typesetting
deriving Repr, DecidableEq

namespace Family

/-- A family and the wider ones that it lies in, from the inside out. -/
def chain : Family → List Family
  | any => [any]
  | reading => [reading, any]
  | field => [field, reading, any]
  | kind => [kind, reading, any]
  | date => [date, reading, any]
  | duration => [duration, reading, any]
  | setting => [setting, reading, any]
  | block => [block, reading, any]
  | step => [step, any]
  | noEvents => [noEvents, step, any]
  | rendering => [rendering, step, any]
  | template => [template, rendering, step, any]
  | typesetting => [typesetting, step, any]

/-- Whether a family lies within another one or is it. -/
def within (family wider : Family) : Bool := family.chain.contains wider

theorem within_any (family : Family) : family.within any := by cases family <;> decide

theorem within_trans {a b c : Family} (hab : a.within b) (hbc : b.within c) : a.within c := by
  revert a b c
  intro a b c
  cases a <;> cases b <;> simp [within, chain] <;> cases c <;> simp

end Family

/-- Why a duration is refused. -/
inductive DurationFault
  /-- It is no natural number of minutes, or one above the greatest allowed. -/
  | notNumber
  /-- The event would end after the last moment of the calendar. -/
  | pastCalendar
deriving Repr, DecidableEq

/-- What is wrong, by its cause. -/
inductive Fault
  /-- A fault that is known by its family and its wording alone. -/
  | plain (family : Family) (words : Text)
  /-- A line of a header has no colon. -/
  | malformedField (line : Text)
  | unknownKind (token : Text)
  /-- A text is not a moment in the expected form. -/
  | badDate (value form : Text)
  | badDuration (value : Text) (cause : Option DurationFault)
  /-- A required field is not in the header. -/
  | missingSetting (name : Text)
  /-- A fault of one block, with the number of the block and the line where it starts. -/
  | inBlock (fault : Fault) (block line : Int)
  | noEvents
  /-- The minutes that fill a column of a page are not a positive number. -/
  | badDayLength (minutes : Int)
  /-- A template cannot be opened; the name is the one shown to the user. -/
  | unreadableTemplate (name : Text) (refusal : Disk.Refusal)
  /-- A placeholder does not occur in a template. -/
  | missingPlaceholder (placeholder : Text)
  /-- The source for the typesetting tool cannot be written. -/
  | unwritableSource (path : Text) (refusal : Disk.Refusal)
  | missingTool (command : Text)
  /-- The tool ended with a code other than zero; with the last lines that it printed. -/
  | toolFailed (command : Text) (code : Int) (lastLines : Text)
  /-- The tool left no readable output. -/
  | missingOutput (path : Text) (refusal : Disk.Refusal)
deriving Repr, DecidableEq

namespace Fault

/-- The form in which a document writes a moment. -/
def dateForm : Text := "%Y-%m-%d %H:%M"

def family : Fault → Family
  | plain family _ => family
  | malformedField _ => .field
  | unknownKind _ => .kind
  | badDate _ _ => .date
  | badDuration _ _ => .duration
  | missingSetting _ => .setting
  | inBlock _ _ _ => .block
  | noEvents => .noEvents
  | badDayLength _ => .rendering
  | unreadableTemplate _ _ => .template
  | missingPlaceholder _ => .template
  | unwritableSource _ _ => .typesetting
  | missingTool _ => .typesetting
  | toolFailed _ _ _ => .typesetting
  | missingOutput _ _ => .typesetting

def message : Fault → Text
  | plain _ words => words
  | malformedField line =>
    "linija `" ++ line ++ "` nije validno polje (ocekivano 'kljuc: vrijednost')"
  | unknownKind token => "`" ++ token ++ "` nije validan tip dogadjaja"
  | badDate value form => "datum `" ++ value ++ "` ne odgovara ocekivanom formatu: `" ++ form ++ "`"
  | badDuration value _ => "trajanje `" ++ value ++ "` nije cijeli broj minuta"
  | missingSetting name => "polje `" ++ name ++ "` nije pronadjeno"
  | inBlock fault block line =>
    "blok " ++ Text.ofInt block ++ " (linija " ++ Text.ofInt line ++ "): " ++ fault.message
  | noEvents => "nije proslijedjen nijedan dogadjaj"
  | badDayLength minutes => "day_minutes mora biti pozitivan, dobijeno " ++ Text.ofInt minutes
  | unreadableTemplate name refusal =>
    "Greska pri citanju sablona '" ++ name ++ "': " ++ refusal.message
  | missingPlaceholder placeholder =>
    "placeholder `" ++ placeholder ++ "` nije pronadjen u sablonu"
  | unwritableSource path refusal => "Ne mogu zapisati '" ++ path ++ "': " ++ refusal.message
  | missingTool command => "Alat '" ++ command ++ "' nije pronadjen"
  | toolFailed command code lastLines =>
    command ++ " je zavrsio sa kodom " ++ Text.ofInt code ++ "\n" ++ lastLines
  | missingOutput path refusal => "PDF '" ++ path ++ "' nije generisan: " ++ refusal.message

/-- Whether a fault belongs to a family or to one inside it. -/
def isIn (fault : Fault) (family : Family) : Bool := fault.family.within family

end Fault

/-! ### Troubles -/

/-- What stops a run. -/
inductive Trouble
  | fault (cause : Fault)
  /-- A word names no policy for faulty blocks. -/
  | unknownPolicy (policy : Text)
  /-- A failure was to be made without an error. -/
  | missingCause
  /-- Bytes that were to be read as text are not UTF-8. -/
  | undecodable
  /-- A path or a word of a command holds the character zero, which the system takes for its end. -/
  | zeroInside
  /-- The name of a source, read as a pattern, is none. -/
  | badPattern
  | nothingGiven
  /-- The standard input is to be read, and there is none. -/
  | noInput
  /-- The converter of descriptions has failed; with its words. -/
  | conversion (words : Text)
  /-- The system refused something that no step answers for. -/
  | refused (refusal : Disk.Refusal)
deriving Repr, DecidableEq

namespace Trouble

def policyNames : List Text := ["abort", "skip"]

def message : Trouble → Text
  | fault cause => cause.message
  | unknownPolicy policy =>
    "Nepoznata politika '" ++ policy ++ "', ocekivano: " ++ Text.join ", " policyNames
  | missingCause => "neuspjeh mora nositi gresku"
  | undecodable => "invalid UTF-8"
  | zeroInside => "embedded null byte"
  | badPattern => "Invalid pattern: '**' can only be an entire path component"
  | nothingGiven => "nothing given"
  | noInput => "no standard input"
  | conversion words => words
  | refused refusal => refusal.message

/-- A trouble as a fault: itself, or one that is known by its wording alone. -/
def toFault : Trouble → Fault
  | fault cause => cause
  | trouble => .plain .any trouble.message

@[simp] theorem message_toFault (trouble : Trouble) : trouble.toFault.message = trouble.message := by
  cases trouble <;> rfl

def isIn (family : Family) : Trouble → Bool
  | fault cause => cause.isIn family
  | _ => false

end Trouble

end Agenda
