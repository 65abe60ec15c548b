import Agenda.Shell.Deed
import Agenda.Shell.FileTool.Place
import Agenda.Shell.Options
import Agenda.Shell.Reshape

/-!
# Formatted printing in scripts

What `printf` prints: a format is followed as often as there are arguments left for its fields, and
arguments that are missing are empty. The `printf` of the shell, that of the larger language and the
tool of that name have other escapes, other words for what is wrong, and complain before, between or
behind what they print.
-/

namespace Agenda.Shell

/-- What is wrong with a format or with an argument. -/
inductive FormatFault
  | noNumber (argument : Text)
  /-- Only the start of an argument is a number. -/
  | notAll (argument : Text)
  | tooGreat (argument : Text)
  /-- Something stands behind an argument that is the number of a character. -/
  | behindCharacter (rest : Text)
  | noLetter (written : Text)
  | badLetter (written : Text)
  | unused (argument : Text)

inductive Printer
  | script
  | large
  | tool
deriving DecidableEq

namespace Printer

def formatEscapes : Printer → Escapes
  | script => .format
  | large => .largeFormat
  | tool => .toolFormat

def wordEscapes : Printer → Escapes
  | script => .script
  | large => .largeWord
  | tool => .toolWord

/-- The letters for sizes, which mean nothing. -/
def sizes : Printer → Text
  | script => []
  | large | tool => "hjlLtz"

def binary : Printer → Binary
  | script => .double
  | large | tool => .extended

/-- A word between quotes, as the letter `q` asks for it. -/
def quoted : Printer → Text → Text
  | tool => FileTool.named
  | _ => quotedForScripts

def knows (printer : Printer) (field : Field) (written : Text) : Bool :=
  let letters : Text := if printer = script then "diouxXbcsfFeEgG" else "diouxXbcsfFeEgGq"
  let refuses (isGiven : Bool) (letters : Text) : Bool :=
    printer = tool && isGiven && letters.contains field.conversion
  letters.contains field.conversion && !refuses (2 < written.length) "bq" &&
    !refuses field.zeros "cs" && !refuses field.alternate "cdisu" &&
    !refuses field.precision.isSome ['c']

def textOf (t : Text) : Text := (Text.ofBytes? (bytesOf t)).getD t

def words (printer : Printer) (fault : FormatFault) : Text :=
  let range : Text := ": Numerical result out of range"
  match printer, fault with
  | script, .noNumber argument => argument ++ ": expected numeric value"
  | script, .notAll argument => argument ++ ": not completely converted"
  | large, .noNumber argument | large, .notAll argument =>
    let kind : Text := match argument with
      | '0' :: 'x' :: _ => "hex number"
      | '0' :: c :: _ => if c.isDigit then "octal number" else "number"
      | _ => "number"
    argument ++ ": invalid " ++ kind
  | tool, .noNumber argument => Misuse.marked argument ++ ": expected a numeric value"
  | tool, .notAll argument => Misuse.marked argument ++ ": value not completely converted"
  | script, .tooGreat argument => argument ++ range
  | large, .tooGreat argument => "warning: " ++ argument ++ range
  | tool, .tooGreat argument => Misuse.marked argument ++ range
  | script, .noLetter _ => "missing format character"
  | script, .badLetter written => textOf written ++ ": invalid directive"
  | large, .noLetter written => "\x60" ++ textOf written ++ "': missing format character"
  | large, .badLetter written => "\x60" ++ [written.getLastD '%'] ++ "': invalid format character"
  | tool, .noLetter written | tool, .badLetter written =>
    textOf written ++ ": invalid conversion specification"
  | _, .behindCharacter rest => "warning: " ++ rest ++
      ": character(s) following character constant have been ignored"
  | _, .unused argument => "warning: ignoring excess arguments, starting with " ++
      Misuse.marked argument

def failsOn (printer : Printer) : FormatFault → Bool
  | .tooGreat _ => printer ≠ large
  | .behindCharacter _ | .unused _ => false
  | _ => true

def faultsOf (printer : Printer) (argument : Text) (rest? : Option Text) (isGreat : Bool) :
    List FormatFault :=
  let great := if isGreat then [FormatFault.tooGreat argument] else []
  match rest? with
  | none => if argument.isEmpty then [] else [.noNumber argument]
  | some rest =>
    if rest.isEmpty then great
    else if printer = tool ∧ isGreat then great
    else [.notAll argument]

/-- The number of the character behind a quotation mark, if an argument is one; and what is wrong
with it. -/
def character? (printer : Printer) (argument : Text) : Option (Nat × List FormatFault) :=
  match argument with
  | mark :: t =>
    if mark ≠ '\x27' ∧ mark ≠ '\x22' then none
    else match t, printer with
      | [], tool => none
      | [], _ => some (0, [])
      | c :: _, script => some (((raw [c]).headD c).toNat, [])
      | c :: _, large => some (c.toNat, [])
      | c :: rest, tool =>
        some (c.toNat, if rest.isEmpty then [] else [.behindCharacter rest])
  | [] => none

/-- The integer that an argument writes, with a sign or without, and what is wrong with it. -/
def integer (printer : Printer) (isSigned : Bool) (argument : Text) : Int × List FormatFault :=
  match printer.character? argument with
  | some (n, faults) => (n, faults)
  | none =>
    let found := integerAt? argument
    let n := (found.map (·.1)).getD 0
    let most := if isSigned then wordRange / 2 - 1 else wordRange - 1
    let least := if isSigned then -(wordRange / 2) else 1 - wordRange
    let bounded := if isSigned then max least (min n most)
      else if n < least ∨ most < n then most else n
    (bounded, printer.faultsOf argument (found.map (·.2)) (n < least || most < n))

/-- The quantity that an argument writes, and what is wrong with it. -/
def quantity (printer : Printer) (argument : Text) : Quantity × List FormatFault :=
  match printer.character? argument with
  | some (n, faults) => (.ofInt n, faults)
  | none =>
    match Quantity.at? argument with
    | some (found, rest) =>
      let (found, isGreat) := printer.binary.of found
      (found, printer.faultsOf argument (some rest) isGreat)
    | none => (.ofInt 0, printer.faultsOf argument none false)

/-- An argument in a field: what is printed, what is wrong with it, and whether anything is printed
behind it. -/
def value (printer : Printer) (field : Field) (argument : Text) :
    Text × List FormatFault × Bool :=
  let c := field.conversion
  if c = 'd' ∨ c = 'i' then
    let (n, faults) := printer.integer true argument
    (field.ofInt n, faults, true)
  else if "ouxX".toList.contains c then
    let (n, faults) := printer.integer false argument
    (field.ofInt n, faults, true)
  else if "fFeEgG".toList.contains c then
    let (n, faults) := printer.quantity argument
    (field.ofQuantity n, faults, true)
  else if c = 'c' then (field.fill false [] [(raw argument).headD '\x00'], [], true)
  else if c = 'b' then
    let (t, goesOn) := printer.wordEscapes.replace (raw argument)
    (field.ofText t, [], goesOn)
  else if c = 'q' then (field.ofText (raw (printer.quoted argument)), [], true)
  else (field.ofText (raw argument), [], true)

/-- What printing comes to: what is said in which order, the arguments that are left, and whether
all went well so far, the format could be followed, and it goes on. -/
structure Printed where
  remarks : List Remark := []
  left : List Text
  well : Bool := true
  followed : Bool := true
  goesOn : Bool := true

/-- Something said before the rest. -/
def Printed.behind (printed : Printed) (remarks : List Remark) (well : Bool) : Printed :=
  { printed with remarks := remarks ++ printed.remarks, well := well && printed.well }

def complaints (printer : Printer) (faults : List FormatFault) : List Remark :=
  faults.map fun fault => .complains (printer.words fault)

def passOnce (printer : Printer) : List Piece → List Text → Printed
  | [], arguments => { left := arguments }
  | .text c :: rest, arguments => (printer.passOnce rest arguments).behind [.prints [c]] true
  | .ends :: _, _ => { left := [], goesOn := false }
  | .unfinished written :: _, arguments =>
    { remarks := printer.complaints [.noLetter written]
      left := arguments
      followed := false
      goesOn := false }
  | .field field written :: rest, arguments =>
    let taken (starred : Bool) (arguments : List Text) :
        Option Int × List FormatFault × List Text :=
      if starred then
        let (n, faults) := printer.integer true (arguments.headD [])
        (some n, faults, arguments.tail)
      else (none, [], arguments)
    let (width, before, arguments) := taken field.starred arguments
    let (precision, between, arguments) := taken field.starredPrecision arguments
    if printer.knows field written then
      let field := field.withNumbers width precision
      let (t, faults, goesOn) := printer.value field (arguments.headD [])
      let faults := before ++ between ++ faults
      let remarks := printer.complaints faults ++ [.prints t]
      let well := !faults.any printer.failsOn
      if goesOn then (printer.passOnce rest arguments.tail).behind remarks well
      else { remarks, left := [], well, goesOn := false }
    else
      { remarks := printer.complaints (before ++ between ++ [.badLetter written])
        left := arguments
        followed := false
        goesOn := false }

/-- Passes through a format until all arguments have been used; `count` is a bound on the number of
passes. -/
def passes (printer : Printer) (pieces : List Piece) : Nat → List Text → Printed
  | 0, arguments => { left := arguments }
  | count + 1, arguments =>
    let printed := printer.passOnce pieces arguments
    if !printed.goesOn ∨ printed.left.isEmpty ∨ printed.left.length = arguments.length then printed
    else (printer.passes pieces count printed.left).behind printed.remarks printed.well

/-- Puts lines before what is said next; the start of a line waits until it ends. -/
def lineByLine (waiting : Text) : List Remark → List Remark
  | [] => [.prints waiting]
  | .prints t :: rest => lineByLine (waiting ++ t) rest
  | remark :: rest =>
    let last := (waiting.reverse.takeWhile (· ≠ '\n')).reverse
    .prints (waiting.take (waiting.length - last.length)) :: remark :: lineByLine last rest

def isPrint : Remark → Bool
  | .prints _ => true
  | _ => false

/-- What is said in the order in which it is seen: the shell complains before it prints anything, in
the larger language only whole lines are printed before a complaint. -/
def ordered (printer : Printer) (remarks : List Remark) : List Remark :=
  match printer with
  | script => remarks.filter (!isPrint ·) ++ remarks.filter isPrint
  | large => lineByLine [] remarks
  | tool => remarks

/-- What is said for a format and arguments, and how it ends. -/
def run (printer : Printer) (format : Text) (arguments : List Text) : List Remark × Nat :=
  let pieces := piecesFrom printer.formatEscapes printer.sizes 0 (raw format)
  let printed := printer.passes pieces (arguments.length + 1) arguments
  let unused := if printer = tool ∧ printed.goesOn then
      printer.complaints (printed.left.take 1 |>.map .unused)
    else []
  (printer.ordered (printed.remarks ++ unused),
    if !printed.followed then (if printer = script then 2 else 1)
    else if printed.well then 0 else 1)

def printedText (remarks : List Remark) : Text :=
  remarks.flatMap fun
    | .prints t => t
    | _ => []

example : let (remarks, status) := script.run "%03d|%s\n" ["7".toList, "a".toList]
    (printedText remarks, status) = ("007|a\n".toList, 0) := by
  decide +kernel

end Printer

end Agenda.Shell
