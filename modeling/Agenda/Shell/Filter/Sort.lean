import Agenda.Shell.Filter
import Agenda.Shell.Filter.Order
import Agenda.Shell.FilterTool.Basic

/-!
# Sorting lines

Lines are compared by keys, which are parts of them, one key after the other; lines with equal keys
are compared as a whole, unless only one of them is to be kept.

What `sort` does with its files: it prints their lines in order, or tells whether they are.
-/

/-! ## Sorting lines -/

namespace Agenda.Shell.Filter

inductive KeyOrder
  | texts
  | numbers
  | sizes
  | magnitudes
  | months
  | versions
deriving DecidableEq

/-- How a key is compared. -/
structure Manner where
  order : KeyOrder := .texts
  reversed : Bool := false
  folded : Bool := false
  dictionary : Bool := false
  /-- Whether characters that do not show are left out. -/
  shown : Bool := false
deriving DecidableEq

def Manner.ofLetters (letters : Text) : Manner where
  order :=
    if letters.contains 'n' then .numbers
    else if letters.contains 'h' then .sizes
    else if letters.contains 'g' then .magnitudes
    else if letters.contains 'M' then .months
    else if letters.contains 'V' then .versions
    else .texts
  reversed := letters.contains 'r'
  folded := letters.contains 'f'
  dictionary := letters.contains 'd'
  shown := letters.contains 'i'

def Manner.compare (manner : Manner) (a b : Text) : Ordering :=
  let made (t : Text) : Text :=
    let t := if manner.dictionary then t.filter fun c => c.isAlphanum || Text.isSpace c else t
    let t := if manner.shown then t.filter fun c => ' ' ≤ c && c ≤ '~' else t
    if manner.folded then t.map Char.toUpper else t
  let order := match manner.order with
    | .texts => compareTexts (made a) (made b)
    | .numbers => compareDecimals (decimalOf a) (decimalOf b)
    | .sizes => compareSizes a b
    | .magnitudes => Magnitude.compare (.ofText a) (.ofText b)
    | .months => Ord.compare (monthOf a) (monthOf b)
    | .versions => compareVersions a b
  if manner.reversed then order.swap else order

/-- An end of a key: a field, and a character in it; no character stands for all of them. Blanks at
the start of the field may not count. -/
structure KeyEnd where
  field : Nat
  sign : Nat
  skips : Bool

/-- A key: where it starts and stops, and how it is compared. -/
structure Key where
  start : KeyEnd
  stop : Option KeyEnd
  manner : Manner

/-- A number of a key, and what is behind it; `words` tell where it should be. -/
def keyNumber (words t : Text) : Except Text (Nat × Text) :=
  let digits := t.takeWhile Char.isDigit
  if digits.isEmpty then .error (words ++ ": invalid count at start of ‘" ++ t ++ "’")
  else .ok (Text.natOfDigits digits, t.drop digits.length)

/-- One end of a key of a specification, and what is behind it: letters and perhaps the other end.
-/
def keyEnd (specification words t : Text) (isStart : Bool) :
    Except Text (KeyEnd × Text × Text) := do
  let misfit (words : Text) : Text :=
    words ++ ": invalid field specification ‘" ++ specification ++ "’"
  let (field, rest) ← keyNumber words t
  if field = 0 then throw (misfit "field number is zero")
  let (sign, rest) ← match rest with
    | '.' :: rest => keyNumber "invalid number after ‘.’" rest
    | rest => pure (if isStart then 1 else 0, rest)
  if sign = 0 ∧ isStart then throw (misfit "character offset is zero")
  let letters := rest.takeWhile fun c => "bdfghiMnRrV".toList.contains c
  let rest := rest.drop letters.length
  if rest.isEmpty ∨ (isStart ∧ rest.head? = some ',') then
    return (⟨field, sign, letters.contains 'b'⟩, letters, rest)
  else throw (misfit "stray character in field spec")

/-- A key as it is written; without letters of its own it is compared as `letters` say. -/
def keyOfSpecification (letters t : Text) : Except Text Key := do
  let (start, own, rest) ← keyEnd t "invalid number at field start" t true
  let (stop, own) ← match rest with
    | [] => pure (none, own)
    | _ :: rest => do
      let (stop, more, _) ← keyEnd t "invalid number after ‘,’" rest false
      pure (some stop, own ++ more)
  if own.isEmpty then
    let skips := letters.contains 'b'
    return ⟨{ start with skips }, stop.map fun stop => { stop with skips }, .ofLetters letters⟩
  else return ⟨start, stop, .ofLetters own⟩

/-- What is behind some fields of a line: of the last of them only its separator is left over if
`partly`. Without a separator the fields are words with the blanks in front of them. -/
def behindFields (separator : Option Char) (partly : Bool) : Nat → Text → Text
  | 0, line => line
  | count + 1, line =>
    match separator with
    | some c =>
      let rest := line.dropWhile (· ≠ c)
      behindFields separator partly count
        (if count = 0 ∧ partly then rest else rest.tail)
    | none =>
      behindFields separator partly count
        ((line.dropWhile Text.isSpace).dropWhile fun c => !Text.isSpace c)

def keyOf (separator : Option Char) (key : Key) (line : Text) : Text :=
  let skip (part : KeyEnd) (t : Text) : Text := if part.skips then t.dropWhile Text.isSpace else t
  let start :=
    (skip key.start (behindFields separator false (key.start.field - 1) line)).drop
      (key.start.sign - 1)
  let rest := match key.stop with
    | none => []
    | some stop =>
      if stop.sign = 0 then behindFields separator true stop.field line
      else (skip stop (behindFields separator false (stop.field - 1) line)).drop stop.sign
  start.take (start.length - rest.length)

structure Sorting where
  separator : Option Char
  keys : List Key
  manner : Manner
  /-- Whether the manner skips blanks at the start of a line. -/
  skips : Bool
  /-- Whether only the first of several lines with equal keys is kept. -/
  single : Bool
  /-- Whether lines with equal keys stay in their order. -/
  stable : Bool
  /-- What ends a line. -/
  mark : Char

namespace Sorting

/-- What some options ask for, or the words about what is wrong with them. -/
def ofOptions (options : Options) : Except Text Sorting := do
  let letters := options.map (·.1)
  let keys ← (options.values 'k').mapM (keyOfSpecification letters)
  let separator ← match options.value? 't' with
    | none => pure none
    | some ['\\', '0'] => pure (some '\x00')
    | some [c] => pure (some c)
    | some [] => throw ("empty tab" : Text)
    | some t => throw ("multi-character tab ‘" ++ t ++ "’")
  let orders := "ghMnV".toList.filter letters.contains
  if 1 < orders.length then throw ("options '-" ++ orders ++ "' are incompatible")
  return {
    separator, keys, manner := .ofLetters letters, skips := letters.contains 'b'
    single := options.has 'u', stable := options.has 's'
    mark := if options.has 'z' then '\x00' else '\n' }

def compareKeys (sorting : Sorting) (a b : Text) : Ordering :=
  if sorting.keys.isEmpty then
    let shown (t : Text) : Text := if sorting.skips then t.dropWhile Text.isSpace else t
    sorting.manner.compare (shown a) (shown b)
  else (sorting.keys.map fun key =>
    key.manner.compare (keyOf sorting.separator key a) (keyOf sorting.separator key b)).foldl
      Ordering.then .eq

def compare (sorting : Sorting) (a b : Text) : Ordering :=
  let keys := sorting.compareKeys a b
  if sorting.single || sorting.stable then keys
  else keys.then
    (if sorting.manner.reversed then (compareTexts a b).swap else compareTexts a b)

def linesOf (sorting : Sorting) (t : Text) : List Text :=
  let parts := t.splitOn sorting.mark
  if parts.getLast? = some [] then parts.dropLast else parts

/-- Lines as they are printed, with only one of several equal ones if that is asked for. -/
def printed (sorting : Sorting) (lines : List Text) : Text :=
  let lines := if sorting.single then
      lines.eraseRepsBy fun a b => sorting.compareKeys a b == .eq
    else lines
  lines.flatMap (· ++ [sorting.mark])

def sort (sorting : Sorting) (texts : List Text) : Text :=
  sorting.printed ((texts.flatMap sorting.linesOf).mergeSort fun a b => sorting.compare a b != .gt)

/-- Texts with their lines in order put together. -/
def join (sorting : Sorting) (texts : List Text) : Text :=
  sorting.printed ((texts.map sorting.linesOf).foldl
    (fun found lines => found.merge lines fun a b => sorting.compare a b != .gt) [])

/-- The first line that is not where it should be, with its number. -/
def misplaced? (sorting : Sorting) (t : Text) : Option (Nat × Text) :=
  let lines := sorting.linesOf t
  let isGood (a b : Text) : Bool :=
    let order := sorting.compare a b
    order == .lt || (order == .eq && !sorting.single)
  (((lines.zip lines.tail).zipIdx 2).find? fun ((a, b), _) => !isGood a b).map
    fun ((_, line), n) => (n, line)

end Sorting

end Agenda.Shell.Filter

/-! ## Sorting as a tool -/

namespace Agenda.Shell.Session

open Agenda.Shell.Filter

def failsSort (session : Session) (words : Text) : Session := session.fails ("sort: " ++ words) 2

/-- Tells whether the lines of a file are in order. -/
def checksOrder (session : Session) (options : Options) (sorting : Sorting)
    (operands : List Text) : Session :=
  match operands with
  | _ :: extra :: _ =>
    session.failsSort ("extra operand ‘" ++ extra ++ "’ not allowed with -c")
  | operands =>
    let (session, t, well) := session.source "sort" operands
    if !well then session.ended 2
    else match sorting.misplaced? t with
      | none => session.ended 0
      | some (n, line) =>
        if options.has 'C' then session.ended 1
        else
          let name := operands.headD ['-']
          (session.print 2 (raw ("sort: " ++ name ++ ":" ++ Text.ofNat n ++ ": disorder: ") ++ line ++
            ['\n'])).ended 1

def sortLines (session : Session) (options : Options) (operands : List Text) : Session :=
  match Sorting.ofOptions options with
  | .error words => session.failsSort words
  | .ok sorting =>
    if options.has 'c' || options.has 'C' then session.checksOrder options sorting operands
    else match session.sources "sort" operands with
      | (session, _, false) => session.ended 2
      | (session, files, true) =>
        let texts := files.map (·.2)
        let t := if options.has 'm' then sorting.join texts else sorting.sort texts
        match options.value? 'o' with
        | none => session.utters t
        | some path =>
          match session.writeTo path t false with
          | .ok session => session.ended 0
          | .error reason =>
            session.failsSort ("open failed: " ++ FileTool.named path ++ ": " ++ reason.words)

end Agenda.Shell.Session
