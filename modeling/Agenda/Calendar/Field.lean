import Agenda.Calendar.Moment
import Agenda.Text.Basic

/-!
# Written moments

The moment of an event is written `year-month-day hour:minute`. The year has four digits; the other
parts have one or two, where a single-digit day may have a space in front; between the date and the
time stands any run of blanks. Digits of every script are read, but where the first digit of two
decides how the part goes on, it has to be one of `0` to `9`, and so has the second one of a month
or of a day above 29.

A reader gives all its readings of the front of a text, each with what is left of the text, so that
a part followed by something it cannot be followed by is read again in the next way.
-/

namespace Agenda

namespace Moment

/-- All readings of the front of a text, each with the rest of the text. -/
abbrev Readings := List (Nat × Text)

/-- One digit of the ten digits `0` to `9`, between two bounds. -/
def readPlain (low high : Nat) : Text → Readings
  | [] => []
  | c :: rest =>
    if c.isDigit ∧ low ≤ c.toNat - 48 ∧ c.toNat - 48 ≤ high then [(c.toNat - 48, rest)] else []

/-- One decimal digit of any script. -/
def readAny : Text → Readings
  | [] => []
  | c :: rest => ((Text.decimalValue? c).map fun value => (value, rest)).toList

/-- A digit and behind it another one. -/
def readTwo (tens units : Text → Readings) (t : Text) : Readings :=
  (tens t).flatMap fun (high, rest) => (units rest).map fun (low, rest) => (10 * high + low, rest)

/-- A part and what has to stand in front of it. -/
def readAfter (mark : Char) (part : Text → Readings) : Text → Readings
  | [] => []
  | c :: rest => if c = mark then part rest else []

/-- Four digits. -/
def readYear : Text → Readings := readTwo (readTwo (readTwo readAny readAny) readAny) readAny

def readMonth (t : Text) : Readings :=
  readTwo (readPlain 1 1) (readPlain 0 2) t ++ readTwo (readPlain 0 0) (readPlain 1 9) t ++
    readPlain 1 9 t

def readDay (t : Text) : Readings :=
  readTwo (readPlain 3 3) (readPlain 0 1) t ++ readTwo (readPlain 1 2) readAny t ++
    readTwo (readPlain 0 0) (readPlain 1 9) t ++ readPlain 1 9 t ++ readAfter ' ' (readPlain 1 9) t

def readHour (t : Text) : Readings :=
  readTwo (readPlain 2 2) (readPlain 0 3) t ++ readTwo (readPlain 0 1) readAny t ++ readAny t

def readMinute (t : Text) : Readings := readTwo (readPlain 0 5) readAny t ++ readAny t

/-- What is left behind one or more blanks, longest run first. -/
def skipBlanks : Text → List Text
  | [] => []
  | c :: rest => if Text.isBlank c then skipBlanks rest ++ [rest] else []

/-- The numbers of a written moment; they need not make up a date. -/
structure Fields where
  date : Date
  hour : Nat
  minute : Nat
deriving Repr, DecidableEq

/-- All ways to cut a whole text into the parts of a moment. -/
def cuts (t : Text) : List Fields :=
  (readYear t).flatMap fun (year, t) =>
  (readAfter '-' readMonth t).flatMap fun (month, t) =>
  (readAfter '-' readDay t).flatMap fun (day, t) =>
  (skipBlanks t).flatMap fun t =>
  (readHour t).flatMap fun (hour, t) =>
  (readAfter ':' readMinute t).filterMap fun (minute, t) =>
  if t.isEmpty then some ⟨⟨year, month, day⟩, hour, minute⟩ else none

/-- The moment that a text writes, if it is cut into parts and the date exists. -/
def ofText? (t : Text) : Option Moment :=
  (cuts t).head?.bind fun fields => of? fields.date fields.hour fields.minute

example : (ofText? "2024-2-29 9:05").map text = some "2024-02-29 09:05".toList := by decide +kernel

example : ofText? "2023-02-29 09:05" = none ∧ ofText? "2024-11-  6 09:00" = none := by
  decide +kernel

end Moment

end Agenda
