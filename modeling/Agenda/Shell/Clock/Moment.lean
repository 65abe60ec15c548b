import Agenda.Calendar.Date
import Agenda.Text.Digit

/-!
# Moments

Moments as tools are told them: a date, a time of the day, a day of the week, a number of seconds, a
distance from now, or several of these one after the other. Moments are milliseconds of the common
count, which starts with the year 1970.
-/

namespace Agenda.Shell.Clock

/-- The number of the day with which the count starts. -/
def firstDay : Int := 719162

def dayLength : Int := 86400000

/-- A piece of the text of a moment. -/
inductive Token
  /-- Digits with a sign, if there is one, and the digits behind a point. -/
  | number (sign : Option Bool) (digits fraction : Text)
  | word (t : Text)
  | sign (c : Char)
deriving DecidableEq

/-- The pieces of a text, which is at most as long as `fuel`. Texts in parentheses do not count. -/
def tokens : Nat → Text → List Token
  | 0, _ | _, [] => []
  | fuel + 1, c :: rest =>
    let number (sign : Option Bool) (t : Text) : List Token :=
      let digits := t.takeWhile Text.isDigit
      match t.drop digits.length with
      | point :: d :: others =>
        if (point = '.' ∨ point = ',') ∧ Text.isDigit d then
          let fraction := (d :: others).takeWhile Text.isDigit
          .number sign digits fraction :: tokens fuel ((d :: others).drop fraction.length)
        else .number sign digits [] :: tokens fuel (point :: d :: others)
      | others => .number sign digits [] :: tokens fuel others
    if c = ' ' ∨ c = '\t' ∨ c = '\n' then tokens fuel rest
    else if Text.isDigit c then number none (c :: rest)
    else if c = '+' ∨ c = '-' then
      let behind := rest.dropWhile fun c => c = ' ' ∨ c = '\t'
      if behind.head?.any Text.isDigit then number (some (c = '-')) behind else tokens fuel rest
    else if c.isAlpha then
      let letters := (c :: rest).takeWhile fun c => c.isAlpha || c == '.'
      .word ((letters.map Char.toLower).filter (· ≠ '.')) :: tokens fuel (rest.drop (letters.length - 1))
    else if c = '(' then tokens fuel ((rest.dropWhile (· ≠ ')')).drop 1)
    else .sign c :: tokens fuel rest

/-- What a text says about a moment. -/
structure Reading where
  monthDay : Option (Nat × Nat) := none
  year : Option Nat := none
  time : Option Int := none
  /-- The minutes by which clocks are ahead where the time is told. -/
  zone : Option Int := none
  /-- A day of the week, and the how manieth one of them is meant. -/
  weekday : Option (Int × Nat) := none
  distant : Bool := false
  months : Int := 0
  days : Int := 0
  length : Int := 0
  /-- Whether the last thing read was a time of the day. -/
  atTime : Bool := false

def monthNames : List Text := ["January", "February", "March", "April", "May", "June", "July",
  "August", "September", "October", "November", "December"]

/-- The names of the days of the week, from the one with which the calendar starts. -/
def dayNames : List Text := ["Monday", "Tuesday", "Wednesday", "Thursday", "Friday", "Saturday",
  "Sunday"]

/-- The number of a name in a list that a word stands for, in full or with its first letters. -/
def nameIndex? (names : List Text) (word : Text) : Option Nat :=
  (names.map fun name => name.map Char.toLower).findIdx? fun name =>
    word = name ∨ word = name.take 3 ∨ (4 ≤ word.length ∧ word = name.take 4)

/-- The number that a word for one stands for. -/
def ordinal? (word : Text) : Option Int :=
  let table : List (Text × Int) := [("last", -1), ("this", 0), ("next", 1), ("first", 1),
    ("third", 3), ("fourth", 4), ("fifth", 5), ("sixth", 6), ("seventh", 7), ("eighth", 8),
    ("ninth", 9), ("tenth", 10), ("eleventh", 11), ("twelfth", 12)]
  table.lookup word

def zone? (word : Text) : Option Int :=
  let hours : List (Text × Int) := [("utc", 0), ("ut", 0), ("gmt", 0), ("z", 0), ("wet", 0),
    ("west", 1), ("bst", 1), ("cet", 1), ("cest", 2), ("eet", 2), ("eest", 3), ("msk", 3),
    ("est", -5), ("edt", -4), ("cst", -6), ("cdt", -5), ("mst", -7), ("mdt", -6), ("pst", -8),
    ("pdt", -7)]
  (hours.lookup word).map (· * 60)

/-- What a unit of time adds to a reading, so many times. -/
def stepped? (unit : Text) (count : Int) (reading : Reading) : Option Reading :=
  let named (name : Text) : Bool := unit = name || unit = name ++ ['s']
  let reading := { reading with distant := true, atTime := false }
  if named "year" then some { reading with months := reading.months + 12 * count }
  else if named "month" then some { reading with months := reading.months + count }
  else if named "fortnight" then some { reading with days := reading.days + 14 * count }
  else if named "week" then some { reading with days := reading.days + 7 * count }
  else if named "day" then some { reading with days := reading.days + count }
  else if named "hour" then some { reading with length := reading.length + 3600000 * count }
  else if named "minute" || named "min" then
    some { reading with length := reading.length + 60000 * count }
  else if named "second" || named "sec" then
    some { reading with length := reading.length + 1000 * count }
  else none

/-- The year that digits write; two of them stand for a year that is near. -/
def fullYear (digits : Text) : Nat :=
  let n := Text.natOfDigits digits
  if digits.length ≤ 2 then if n < 69 then 2000 + n else 1900 + n else n

def Reading.withDate (reading : Reading) (year : Option Nat) (month day : Nat) : Option Reading :=
  if reading.monthDay.isSome then none
  else some { reading with monthDay := some (month, day), year, atTime := false }

def Reading.withTime (reading : Reading) (hour minute : Nat) (milliseconds : Nat) :
    Option Reading :=
  if reading.time.isSome ∨ 23 < hour ∨ 59 < minute ∨ 60999 < milliseconds then none
  else some { reading with
    time := some ((hour * 60 + minute : Nat) * 60000 + milliseconds), atTime := true }

/-- Takes an hour before or after noon. -/
def Reading.withHalf (reading : Reading) (half : Text) (hour minute milliseconds : Nat) :
    Option Reading :=
  if hour = 0 ∨ 12 < hour then none
  else reading.withTime (hour % 12 + if half = "pm".toList then 12 else 0) minute milliseconds

def Reading.withZone (reading : Reading) (minutes : Int) : Option Reading :=
  if reading.zone.isSome then none
  else some { reading with zone := some minutes, atTime := false }

/-- The minutes that a distance from the common time writes: hours, or hours and minutes. -/
def zoneMinutes (negative : Bool) (digits : Text) (minutes : Nat) : Int :=
  let n := Text.natOfDigits digits
  let total : Nat := if digits.length ≤ 2 then n * 60 + minutes else n / 100 * 60 + n % 100
  if negative then -total else total

/-- The milliseconds of a number of seconds with digits behind the point. -/
def inMilliseconds (digits fraction : Text) : Nat :=
  Text.natOfDigits digits * 1000 + Text.natOfDigits ((fraction ++ "000".toList).take 3)

/-- Takes a number that stands alone: a year, a date in one row of digits, or a time. -/
def Reading.withNumber (reading : Reading) (digits : Text) : Option Reading :=
  let n := Text.natOfDigits digits
  if reading.monthDay.isSome ∧ reading.year.isNone ∧ !reading.distant ∧
      (reading.time.isSome ∨ 2 < digits.length) then
    some { reading with year := some (fullYear digits) }
  else if 4 < digits.length then
    reading.withDate (some (fullYear (digits.take (digits.length - 4)))) (n / 100 % 100) (n % 100)
  else if digits.length ≤ 2 then reading.withTime n 0 0
  else reading.withTime (n / 100) (n % 100) 0

/-- Whether a word tells one half of the day from the other one. -/
def isHalf (word : Text) : Bool := word == "am".toList || word == "pm".toList

/-- Reads the pieces of a moment, of which there are at most `fuel`. -/
def readAll : Nat → Reading → List Token → Option Reading
  | _, reading, [] => some reading
  | 0, _, _ => none
  | fuel + 1, reading, tokens =>
    let goOn (found : Option Reading) (rest : List Token) : Option Reading :=
      found.bind fun reading => readAll fuel reading rest
    let counted (count : Int) (rest : List Token) : Option Reading :=
      match rest with
      | .word unit :: rest => goOn (stepped? unit count reading) rest
      | _ => none
    let value (digits : Text) : Nat := Text.natOfDigits digits
    match tokens with
    | .number none year [] :: .number (some true) month [] :: .number (some true) day [] ::
        .word ['t'] :: rest
    | .number none year [] :: .number (some true) month [] :: .number (some true) day [] :: rest =>
      goOn (reading.withDate (some (fullYear year)) (value month) (value day)) rest
    | .number none a [] :: .sign '/' :: .number none b [] :: .sign '/' :: .number none c [] ::
        rest =>
      if 4 ≤ a.length then
        goOn (reading.withDate (some (fullYear a)) (value b) (value c)) rest
      else goOn (reading.withDate (some (fullYear c)) (value a) (value b)) rest
    | .number none a [] :: .sign '/' :: .number none b [] :: rest =>
      goOn (reading.withDate none (value a) (value b)) rest
    | .number none hour [] :: .sign ':' :: .number none minute [] :: .sign ':' ::
        .number none second fraction :: .word half :: rest =>
      if isHalf half then
        goOn (reading.withHalf half (value hour) (value minute) (inMilliseconds second fraction))
          rest
      else goOn (reading.withTime (value hour) (value minute) (inMilliseconds second fraction))
        (.word half :: rest)
    | .number none hour [] :: .sign ':' :: .number none minute [] :: .sign ':' ::
        .number none second fraction :: rest =>
      goOn (reading.withTime (value hour) (value minute) (inMilliseconds second fraction)) rest
    | .number none hour [] :: .sign ':' :: .number none minute [] :: .word half :: rest =>
      if isHalf half then goOn (reading.withHalf half (value hour) (value minute) 0) rest
      else goOn (reading.withTime (value hour) (value minute) 0) (.word half :: rest)
    | .number none hour [] :: .sign ':' :: .number none minute [] :: rest =>
      goOn (reading.withTime (value hour) (value minute) 0) rest
    | .number (some negative) hours [] :: .sign ':' :: .number none minutes [] :: rest =>
      goOn (reading.withZone (zoneMinutes negative hours (value minutes))) rest
    | .number (some negative) digits [] :: rest =>
      if reading.atTime then goOn (reading.withZone (zoneMinutes negative digits 0)) rest
      else counted (if negative then -(value digits : Int) else value digits) rest
    | .number none digits [] :: .word word :: rest =>
      match nameIndex? monthNames word, nameIndex? dayNames word with
      | some month, _ =>
        match rest with
        | .number (some true) year [] :: rest =>
          goOn (reading.withDate (some (fullYear year)) (month + 1) (value digits)) rest
        | rest => goOn (reading.withDate none (month + 1) (value digits)) rest
      | none, some day =>
        goOn (some { reading with weekday := some (value digits, day), atTime := false }) rest
      | none, none =>
        if isHalf word then goOn (reading.withHalf word (value digits) 0 0) rest
        else if (stepped? word 1 reading).isSome then counted (value digits) (.word word :: rest)
        else goOn (reading.withNumber digits) (.word word :: rest)
    | .number none digits [] :: rest => goOn (reading.withNumber digits) rest
    | .word word :: rest =>
      match nameIndex? monthNames word, nameIndex? dayNames word, ordinal? word, zone? word with
      | some month, _, _, _ =>
        match rest with
        | .number (some true) day [] :: .number (some true) year [] :: rest
        | .number none day [] :: .sign ',' :: .number none year [] :: rest =>
          goOn (reading.withDate (some (fullYear year)) (month + 1) (value day)) rest
        | .number none day [] :: rest => goOn (reading.withDate none (month + 1) (value day)) rest
        | _ => none
      | none, some day, _, _ =>
        let rest := match rest with
          | .sign ',' :: rest => rest
          | rest => rest
        goOn (some { reading with weekday := some (0, day), atTime := false }) rest
      | none, none, some count, _ =>
        match rest with
        | .word other :: rest =>
          match nameIndex? dayNames other with
          | some day =>
            goOn (some { reading with weekday := some (count, day), atTime := false }) rest
          | none => goOn (stepped? other count reading) rest
        | _ => none
      | none, none, none, some minutes => goOn (reading.withZone minutes) rest
      | none, none, none, none =>
        if word = "ago".toList then
          goOn (some { reading with
            months := -reading.months, days := -reading.days, length := -reading.length }) rest
        else if word = "now".toList ∨ word = "today".toList then goOn (stepped? "day" 0 reading) rest
        else if word = "yesterday".toList then goOn (stepped? "day" (-1) reading) rest
        else if word = "tomorrow".toList then goOn (stepped? "day" 1 reading) rest
        else goOn (stepped? word 1 reading) rest
    | _ => none

/-- The number of the first day of a month, where months are counted from the start of the year
that would be the year zero. -/
def monthStart (months : Int) : Int :=
  (Date.number ⟨(months / 12).toNat, (months % 12).toNat + 1, 1⟩ : Nat)

/-- The moment that a reading comes to. A date alone is its first moment, a time alone is of today,
and a distance alone is from now. -/
def Reading.moment? (reading : Reading) (now : Int) : Option Int :=
  let today := Date.ofNumber ((now / dayLength + firstDay).toNat)
  let (month, day) := reading.monthDay.getD (today.month, today.day)
  let date : Date := ⟨reading.year.getD today.year, month, day⟩
  if !decide date.Valid then none
  else
    let number : Int := date.number
    let number := match reading.weekday, reading.monthDay with
      | some (count, day), none =>
        let weekday := number % 7
        number + ((day : Int) - weekday + 7) % 7 +
          7 * (count - if 0 < count ∧ weekday ≠ day then 1 else 0)
      | _, _ => number
    let date := Date.ofNumber number.toNat
    let number := monthStart (12 * date.year + (date.month - 1 : Nat) + reading.months) +
      (date.day - 1 : Nat) + reading.days
    let time := reading.time.getD (if reading.distant ∧ reading.monthDay.isNone ∧
      reading.weekday.isNone then now % dayLength else 0)
    some ((number - firstDay) * dayLength + time + reading.length -
      60000 * reading.zone.getD 0)

def moment? (now : Int) (t : Text) : Option Int :=
  let tokens := tokens t.length t
  match tokens with
  | [.sign '@', .number sign digits fraction] =>
    let length : Int := inMilliseconds digits fraction
    some (if sign = some true then -length else length)
  | tokens => (readAll (tokens.length + 1) {} tokens).bind (·.moment? now)

/-- The number that a whole text writes with digits. -/
def number? (t : Text) : Option Nat :=
  if !t.isEmpty && t.all Text.isDigit then some (Text.natOfDigits t) else none

/-- The moment that digits write: month, day, hour and minute, with a year before them and seconds
behind a point if need be. -/
def stamp? (now : Int) (t : Text) : Option Int := do
  let (digits, seconds) := match Text.cutAt? '.' t with
    | some (digits, seconds) => (digits, seconds)
    | none => (t, "00".toList)
  let seconds ← number? seconds
  let thisYear := (Date.ofNumber ((now / dayLength + firstDay).toNat)).year
  let (year, rest) ← match digits.length with
    | 8 => some (thisYear, digits)
    | 10 => (number? (digits.take 2)).map fun _ => (fullYear (digits.take 2), digits.drop 2)
    | 12 => (number? (digits.take 4)).map (·, digits.drop 4)
    | _ => none
  let row ← number? rest
  let reading ← ({} : Reading).withDate (some year) (row / 1000000) (row / 10000 % 100)
  (← reading.withTime (row / 100 % 100) (row % 100) (1000 * seconds)).moment? now

example : moment? 0 "1970-01-02 00:00:01".toList = some 86401000 ∧
    moment? 0 "@5".toList = some 5000 ∧ moment? 0 "2 hours ago".toList = some (-7200000) := by
  decide +kernel

example : moment? 0 "31 Jan 2020 10:00 +0100".toList = some 1580461200000 := by decide +kernel

end Agenda.Shell.Clock
