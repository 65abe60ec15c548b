import Agenda.Shell.Clock.Moment
import Agenda.Shell.Numeral

/-!
# Written moments and lengths of time

Moments as tools write them: a format in which letters behind per cent signs stand for the parts of
a date and of the time of the day. Marks before a letter say what a part is filled up with, or that
its letters are capital ones.

Lengths of time as tools are told them: a decimal number, and perhaps a letter for the unit.
-/

namespace Agenda.Shell.Clock

/-! ## Written moments -/

/-- A part of a moment: its text, or a number with its least width and what fills it up. -/
inductive Part
  | text (t : Text)
  | number (n : Nat) (width : Nat) (fill : Char)

def filledUp (width : Nat) (fill : Char) (t : Text) : Text :=
  List.replicate (width - t.length) fill ++ t

/-- A part as it stands without marks. -/
def Part.plain : Part → Text
  | text t => t
  | number n width fill => filledUp width fill (Text.ofNat n)

/-- The year and the number of the week of a date, where weeks start with Monday and the first one
of a year holds its fourth day. -/
def weekOf (date : Date) : Nat × Nat :=
  let number := date.number
  let thursday := Date.ofNumber (number - number % 7 + 3)
  (thursday.year, (Date.daysBeforeMonth thursday.year thursday.month + thursday.day - 1) / 7 + 1)

def part? (moment : Int) (letter : Char) : Option Part :=
  let day := (moment / dayLength + firstDay).toNat
  let date := Date.ofNumber day
  let seconds := (moment % dayLength / 1000).toNat
  let hour := seconds / 3600
  let minute := seconds / 60 % 60
  let second := seconds % 60
  let two (n : Nat) : Part := .number n 2 '0'
  let filled (n : Nat) : Part := .number n 2 ' '
  let plainTwo (n : Nat) : Text := Text.padNat 2 n
  let short := if hour % 12 = 0 then 12 else hour % 12
  let yearDay := Date.daysBeforeMonth date.year date.month + date.day
  let weekday := day % 7
  let dayName := dayNames.getD weekday []
  let monthName := monthNames.getD (date.month - 1) []
  let clock := plainTwo hour ++ ':' :: plainTwo minute ++ ':' :: plainTwo second
  let slashed := plainTwo date.month ++ '/' :: plainTwo date.day ++ '/' ::
    plainTwo (date.year % 100)
  match letter with
  | 'Y' => some (.number date.year 1 '0')
  | 'y' => some (two (date.year % 100))
  | 'C' => some (two (date.year / 100))
  | 'm' => some (two date.month)
  | 'd' => some (two date.day)
  | 'e' => some (filled date.day)
  | 'H' => some (two hour)
  | 'k' => some (filled hour)
  | 'I' => some (two short)
  | 'l' => some (filled short)
  | 'M' => some (two minute)
  | 'S' => some (two second)
  | 'N' => some (.number ((moment % 1000).toNat * 1000000) 9 '0')
  | 's' => some (.text (Text.ofInt (moment / 1000)))
  | 'j' => some (.number yearDay 3 '0')
  | 'q' => some (.number ((date.month + 2) / 3) 1 '0')
  | 'a' => some (.text (dayName.take 3))
  | 'A' => some (.text dayName)
  | 'b' | 'h' => some (.text (monthName.take 3))
  | 'B' => some (.text monthName)
  | 'u' => some (.number (weekday + 1) 1 '0')
  | 'w' => some (.number ((weekday + 1) % 7) 1 '0')
  | 'U' => some (two ((yearDay + 6 - (weekday + 1) % 7) / 7))
  | 'W' => some (two ((yearDay + 6 - weekday) / 7))
  | 'G' => some (.number (weekOf date).1 1 '0')
  | 'g' => some (two ((weekOf date).1 % 100))
  | 'V' => some (two (weekOf date).2)
  | 'F' =>
    some (.text (Text.ofNat date.year ++ '-' :: plainTwo date.month ++ '-' :: plainTwo date.day))
  | 'D' | 'x' => some (.text slashed)
  | 'T' | 'X' => some (.text clock)
  | 'R' => some (.text (clock.take 5))
  | 'p' => some (.text (if hour < 12 then "AM" else "PM"))
  | 'P' => some (.text (if hour < 12 then "am" else "pm"))
  | 'r' => some (.text (plainTwo short ++ clock.drop 2 ++ (if hour < 12 then " AM" else " PM")))
  | 'c' => some (.text (dayName.take 3 ++ ' ' :: monthName.take 3 ++ ' ' ::
      (filled date.day).plain ++ ' ' :: clock ++ ' ' :: Text.ofNat date.year))
  | 'Z' => some (.text "UTC")
  | 'z' => some (.text "+0000")
  | 'n' => some (.text ['\n'])
  | 't' => some (.text ['\t'])
  | '%' => some (.text ['%'])
  | _ => none

/-- A part with the marks before its letter: some of `-_0^#`, a width, and colons. -/
def Part.marked (part : Part) (marks : Text) (letter : Char) : Text :=
  let flags := marks.takeWhile "-_0+^#".toList.contains
  let behind := marks.drop flags.length
  let digits := behind.takeWhile Text.isDigit
  let colons := (behind.drop digits.length).filter (· = ':')
  let fill? (normal : Char) : Option Char :=
    match (flags.filter "-_0+".toList.contains).getLast? with
    | some '-' => none
    | some '_' => some ' '
    | some _ => some '0'
    | none => some normal
  let width := Text.natOfDigits digits
  let t := match part with
    | .text t =>
      let t := if letter = 'z' then
          match colons.length with
          | 0 => t
          | 1 => "+00:00"
          | 2 => "+00:00:00"
          | _ => "+00"
        else t
      if flags.contains '-' then t else filledUp width ((fill? ' ').getD ' ') t
    | .number n least fill =>
      if letter = 'N' ∧ 0 < width then (Text.padNat 9 n ++ List.replicate (width - 9) '0').take width
      else match fill? fill with
        | none => Text.ofNat n
        | some c => filledUp (if digits.isEmpty then least else width) c (Text.ofNat n)
  if flags.contains '^' then t.map Char.toUpper
  else if flags.contains '#' then
    if letter = 'p' ∨ letter = 'Z' then t.map Char.toLower else t.map Char.toUpper
  else t

/-- A moment written in a format; `marks` are those that have been read behind a per cent sign. -/
def formattedFrom (moment : Int) : Option Text → Text → Text
  | none, [] => []
  | some marks, [] => '%' :: marks
  | none, c :: rest =>
    if c = '%' then formattedFrom moment (some []) rest else c :: formattedFrom moment none rest
  | some marks, c :: rest =>
    if "-_0+^#:123456789".toList.contains c || (c = 'E' || c = 'O') then
      formattedFrom moment (some (marks ++ [c])) rest
    else (match part? moment c with
      | some part => part.marked marks c
      | none => '%' :: marks ++ [c]) ++ formattedFrom moment none rest

def formatted (moment : Int) (format : Text) : Text := formattedFrom moment none format

example : formatted 1580475600000 "%d.%m.%Y %H:%M %a" = "31.01.2020 13:00 Fri".toList := by
  decide +kernel

/-! ## Lengths of time -/

/-- The seconds of a unit of time; none is given for those of one second. -/
def secondsOf? (unit : Text) : Option Nat :=
  let units : List (Text × Nat) := [([], 1), ("s", 1), ("m", 60), ("h", 3600), ("d", 86400)]
  units.lookup unit

/-- A length of time in milliseconds. A fraction of one counts as a whole. -/
def length? (t : Text) : Option Int :=
  match Quantity.at? t with
  | some (quantity, unit) =>
    (secondsOf? unit).bind fun seconds =>
      match quantity with
      | .finite negative digits places =>
        if negative && digits != 0 then none
        else
          some ((1000 * seconds * digits + powerOfTen places - 1) / powerOfTen places : Nat)
      | .infinite false => some 1000000000000000
      | _ => none
  | none => none

example : length? "1.5m".toList = some 90000 ∧ length? "1e-1".toList = some 100 ∧
    length? "x".toList = none := by
  decide +kernel

end Agenda.Shell.Clock
