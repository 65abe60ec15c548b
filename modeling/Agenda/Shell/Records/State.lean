import Agenda.Shell.Expression.Reader
import Agenda.Shell.Filter
import Agenda.Shell.Records.Value

/-!
# States of record scripts

What a record script can read and change: variables, lists of values under texts, the record at hand
with its fields, what is left to be read, and the world around it. The fields and the record are
kept in step: a changed field makes the record anew. What is printed is held back until it has to be
there: before a command runs, or in the end.
-/

namespace Agenda.Shell.Records

/-- Where something that was printed goes. -/
inductive Outlet
  | output
  | complaints
  | file (append : Bool) (path : Text)
  | command (script : Text)
deriving DecidableEq

/-- What a script can do in the world around it, which is of type `ω`. -/
structure World (ω : Type) where
  read : ω → Text → Option Text
  /-- Prints; nothing is printed to a command in this way. -/
  write : ω → Outlet → Text → ω
  /-- Runs a command that reads some text, or what the script could read, and tells its status. -/
  run : ω → Option Text → Text → ω × Nat
  /-- Runs a command and takes what it prints. -/
  answer : ω → Text → ω × Text × Nat

/-- An element of a list: its value under a text, and whether that text was only met as a number. -/
structure Element where
  key : Text
  counted : Bool
  value : Value

structure State (ω : Type) where
  world : ω
  globals : List (Text × Value)
  /-- The lists, each with the element first that was met last. -/
  lists : List (Text × List Element)
  /-- In a function, its own variables. -/
  locals : List (Text × Value)
  /-- In a function, the lists that its parameters stand for. -/
  aliases : List (Text × Text)
  /-- The number of function calls so far. -/
  calls : Nat
  record : Text
  fields : List Value
  /-- What was printed and held back, the last first. -/
  held : List Text
  /-- What commands are still to read, the last first for each. -/
  pipes : List (Text × List Text)
  /-- The files that were printed to. -/
  opened : List Text
  /-- The records that are left of the file at hand. -/
  waiting : List Text
  /-- The operands that are left. -/
  sources : List Text
  /-- What is left of other files and of what commands have printed, with their status. -/
  others : List (Text × List Text × Nat)
  /-- The rules for stretches of records that have started. -/
  active : List Nat
  /-- The number that chance was last to start from. -/
  seed : Value
  status : Nat
  /-- Whether something went wrong that ends the script. -/
  broken : Bool
  /-- Whether a function has ended the script. -/
  exiting : Bool

/-- A pattern with the characters that its backslashes write; those that would be signs keep a
backslash, and `skip` characters belong to what was written before. -/
def plainPattern : Nat → Text → Text
  | _, [] => []
  | skip + 1, _ :: rest => plainPattern skip rest
  | 0, '\\' :: c :: rest =>
    if isOctal c then
      let digits := octalDigits 3 (c :: rest)
      '\\' :: octal digits :: plainPattern digits.length (c :: rest)
    else match escaped? c with
      | some d => '\\' :: d :: plainPattern 1 (c :: rest)
      | none => '\\' :: c :: plainPattern 1 (c :: rest)
  | 0, c :: rest => c :: plainPattern 0 rest

def expressionOf? (t : Text) : Option Expression := Expression.read? .records (plainPattern 0 t)

/-- The parts of a text between the places where an expression is found. -/
def partsBetween (e : Expression) : Nat → Option Char → Text → List Text
  | 0, _, t => [t]
  | fuel + 1, before, t =>
    match e.find? false before t with
    | none => [t]
    | some found =>
      if found.found.isEmpty then [t]
      else found.skipped :: partsBetween e fuel found.found.getLast? found.behind

/-- What parts a text. -/
inductive Separator
  | blanks
  | everywhere
  | char (c : Char)
  | pattern (t : Text)

namespace Separator

/-- What a text asks for as a separator: blanks if it is a single space. -/
def ofText : Text → Separator
  | [' '] => blanks
  | [] => everywhere
  | [c] => char c
  | t => pattern t

def ofPattern : Text → Separator
  | [] => everywhere
  | t => pattern t

def parts (separator : Separator) (t : Text) : List Text :=
  if t.isEmpty then []
  else match separator with
    | blanks =>
      let isBlank (c : Char) : Bool := c == ' ' || c == '\t' || c == '\n'
      (t.splitBy fun c d => isBlank c == isBlank d).filter fun part => !part.all isBlank
    | everywhere => t.map fun c => [c]
    | char c => t.splitOn c
    | pattern own =>
      match expressionOf? own with
      | some e => partsBetween e t.length none t
      | none => [t]

end Separator

/-- The fields of a text, given the settings of what parts fields and records: in records that blank
lines end, a line feed parts fields as well. -/
def fieldsOf (separator records t : Text) : List Text :=
  if records.isEmpty && separator != [' '] then
    (t.splitOn '\n').flatMap (Separator.ofText separator).parts
  else (Separator.ofText separator).parts t

/-- The records of a text, given what ends them: a line feed, or blank lines if it is nothing, or
else a character or what fits an expression. -/
def recordsOf (separator t : Text) : List Text :=
  match separator with
  | ['\n'] => Filter.linesOf t
  | [] =>
    let paragraphs := (Filter.linesOf t).splitBy fun a b => a.isEmpty == b.isEmpty
    (paragraphs.filter fun lines => !lines.all List.isEmpty).map Text.unlines
  | separator =>
    let parts := match separator with
      | [c] => t.splitOn c
      | pattern =>
        match expressionOf? pattern with
        | some e => partsBetween e t.length none t
        | none => [t]
    match parts.getLast? with
    | some [] => parts.dropLast
    | _ => parts

def bind {α : Type} (name : Text) (value : α) (entries : List (Text × α)) : List (Text × α) :=
  if (entries.lookup name).isSome then
    entries.map fun (other, old) => (other, if other = name then value else old)
  else entries ++ [(name, value)]

namespace Element

/-- The bucket of a text among as many as there are: its bytes are mixed in one after the other. -/
def bucketOf (buckets : Nat) (key : Text) : Nat :=
  (key.foldl (fun sum c => (sum ^^^ c.toNat) * 16777619 % 4294967296) 2166136261) % buckets

/-- The number of buckets for some elements: twelve of them at most share one on average. -/
def bucketCount (size : Nat) : Nat :=
  if size ≤ 768 then 64 else 64 * Nat.nextPowerOfTwo ((size + 767) / 768)

/-- Elements that were only met as numbers take their places before all others, as if they had been
met in the order of their numbers. -/
def settled (elements : List Element) : List Element :=
  let (counted, others) := elements.partition (·.counted)
  let place (element : Element) : Nat := (integerOf element.key % 64).toNat
  let sorted := counted.mergeSort fun a b => place a ≤ place b
  (sorted.map fun element => { element with counted := false }).reverse ++ others

/-- The keys of a list in the order in which they are gone through: bucket by bucket, and in each
the one first that was met last. -/
def keys (elements : List Element) : List Text :=
  let buckets := bucketCount elements.length
  let placed := (settled elements).map fun element => (bucketOf buckets element.key, element.key)
  (placed.mergeSort fun a b => a.1 ≤ b.1).map (·.2)

/-- The element under a key, if there is one, and the list with that element first if the key is a
text. -/
def find? (key : Text) (counted : Bool) (elements : List Element) :
    Option Value × List Element :=
  match elements.find? (·.key = key) with
  | none => (none, elements)
  | some element =>
    if counted then (some element.value, elements)
    else
      let elements := settled elements
      (some element.value,
        { element with counted := false } :: elements.filter (·.key ≠ key))

def put (key : Text) (counted : Bool) (value : Value) (elements : List Element) : List Element :=
  if elements.any (·.key = key) then
    elements.map fun element => if element.key = key then { element with value } else element
  else ⟨key, counted, value⟩ :: elements

end Element

namespace State

variable {ω : Type}

/-- A state with some variables in which nothing has been read. -/
def start (world : ω) (globals : List (Text × Value)) (lists : List (Text × List Element))
    (sources : List Text) : State ω :=
  let settings : List (Text × Value) := [("FS", .text [' ']), ("OFS", .text [' ']),
    ("ORS", .text ['\n']), ("RS", .text ['\n']), ("SUBSEP", .text [Char.ofNat 28]),
    ("RSTART", .number 0), ("RLENGTH", .number (-1)), ("NR", .number 0), ("FNR", .number 0),
    ("OFMT", .text usualFormat), ("CONVFMT", .text usualFormat)]
  { world, globals := globals ++ settings
    lists, locals := [], aliases := [], calls := 0, record := [], fields := [], held := []
    pipes := [], opened := [], waiting := [], sources, others := [], active := []
    seed := .number 0, status := 0, broken := false, exiting := false }

/-- Prints what was held back. -/
def flush (world : World ω) (state : State ω) : State ω :=
  if state.held.isEmpty then state
  else { state with
    world := world.write state.world .output state.held.reverse.flatten, held := [] }

def print (world : World ω) (state : State ω) (outlet : Outlet) (t : Text) : State ω :=
  match outlet with
  | .output => { state with held := t :: state.held }
  | .complaints => { state with world := world.write state.world .complaints t }
  | .file append path =>
    let append := append || state.opened.contains path
    { state with
      world := world.write state.world (.file append path) t
      opened := if state.opened.contains path then state.opened else path :: state.opened }
  | .command script =>
    match state.pipes.lookup script with
    | some before => { state with pipes := bind script (t :: before) state.pipes }
    | none =>
      let state := state.flush world
      { state with pipes := state.pipes ++ [(script, [t])] }

/-- Runs the command that some text was printed to. -/
def closePipe (world : World ω) (state : State ω) (script : Text) : Nat × State ω :=
  match state.pipes.lookup script with
  | none => (0, state)
  | some parts =>
    let (after, status) := world.run state.world (some parts.reverse.flatten) script
    (status, { state with
      world := after, pipes := state.pipes.filter (·.1 ≠ script) })

/-- Ends all that was printed to: the commands first. -/
def closeAll (world : World ω) (state : State ω) : State ω :=
  (state.pipes.reverse.foldl (fun state (script, _) =>
    (closePipe world state script).2) state).flush world

/-- Closes a file or a command, and tells how it ended. -/
def close (world : World ω) (state : State ω) (name : Text) : Int × State ω :=
  if (state.pipes.lookup name).isSome then
    let (status, state) := state.closePipe world name
    (status, state)
  else match state.others.lookup name with
    | some (_, status) => (status, { state with others := state.others.filter (·.1 ≠ name) })
    | none =>
      if state.opened.contains name then
        (0, { state with opened := state.opened.filter (· ≠ name) })
      else (-1, state)

/-- The text of a variable that is none of a function. -/
def setting (state : State ω) (name : Text) : Text :=
  ((state.globals.lookup name).map (Value.toText usualFormat)).getD []

def textOf (state : State ω) (value : Value) : Text := value.toText (state.setting "CONVFMT")

def withRecord (state : State ω) (record : Text) : State ω :=
  { state with
    record
    fields := (fieldsOf (state.setting "FS") (state.setting "RS") record).map Value.given }

def withFields (state : State ω) (fields : List Value) : State ω :=
  { state with
    fields, record := Text.join (state.setting "OFS") (fields.map state.textOf) }

/-- A field; that of number zero is the record. -/
def field (state : State ω) (n : Int) : Value :=
  if n ≤ 0 then .given state.record else state.fields.getD (n.toNat - 1) .unset

def setField (state : State ω) (n : Int) (value : Value) : State ω :=
  if n ≤ 0 then state.withRecord (state.textOf value)
  else
    let missing := n.toNat - state.fields.length
    let fields := state.fields ++ List.replicate missing (Value.text [])
    state.withFields (fields.set (n.toNat - 1) value)

def variableAt (state : State ω) (name : Text) : Value :=
  if name = "NF".toList then .ofNat state.fields.length
  else ((state.locals.lookup name).or (state.globals.lookup name)).getD .unset

def setVariable (state : State ω) (name : Text) (value : Value) : State ω :=
  if name = "NF".toList then
    let count := value.toInt.toNat
    state.withFields
      (state.fields.take count ++ List.replicate (count - state.fields.length) (Value.text []))
  else if (state.locals.lookup name).isSome then
    { state with locals := bind name value state.locals }
  else { state with globals := bind name value state.globals }

def listName (state : State ω) (name : Text) : Text := (state.aliases.lookup name).getD name

def list (state : State ω) (name : Text) : List Element :=
  (state.lists.lookup (state.listName name)).getD []

def setList (state : State ω) (name : Text) (elements : List Element) : State ω :=
  { state with lists := bind (state.listName name) elements state.lists }

/-- The text under which an element is kept, and whether it is that of a number. -/
def keyOf (state : State ω) (value : Value) : Text × Bool :=
  match value with
  | .number x => (state.textOf value, Float.ofInt (wholeOf x) == x)
  | value => (state.textOf value, false)

def countUp (state : State ω) (name : Text) : State ω :=
  { state with
    globals := bind name (.number
      (((state.globals.lookup name).getD .unset).toNumber + 1)) state.globals }

/-- Reads what is behind an equals sign of an operand that is an assignment. -/
def assignment? (operand : Text) : Option (Text × Text) :=
  (Text.cutAt? '=' operand).filter fun (name, _) =>
    !name.isEmpty && name.all (fun c => c.isAlphanum || c == '_') && !(name.headD '0').isDigit

/-- Opens files until there are records, or no files are left. -/
def refill (world : World ω) : List Text → State ω → State ω
  | [], state => { state with sources := [] }
  | source :: rest, state =>
    match assignment? source with
    | some (name, value) =>
      refill world rest
        { state with globals := bind name (.given (raw value)) state.globals }
    | none =>
      match world.read state.world source with
      | some t =>
        let state := { state with
          globals := bind "FILENAME".toList (.text (raw source))
            (bind "FNR".toList (.number 0) state.globals) }
        match recordsOf (state.setting "RS") t with
        | [] => refill world rest state
        | records => { state with waiting := records, sources := rest }
      | none =>
        refill world rest { state.print world .complaints
          ("mawk: cannot open " ++ raw source ++ " (No such file or directory)\n") with
          status := 2 }

def next? (world : World ω) (state : State ω) : Option (Text × State ω) :=
  let state := if state.waiting.isEmpty then refill world state.sources state else state
  match state.waiting with
  | [] => none
  | record :: rest =>
    some (record, ({ state with waiting := rest }.countUp "NR").countUp "FNR")

/-- The next record of another source than those of the script; there is none if the source cannot
be read, and an empty rest if it has no more. -/
def nextOf (world : World ω) (state : State ω) (name : Text) (isCommand : Bool) :
    Option (List Text) × State ω :=
  let taken (records : List Text) (status : Nat) (state : State ω) :
      Option (List Text) × State ω :=
    (some (records.take 1),
      { state with others := bind name (records.drop 1, status) state.others })
  match state.others.lookup name with
  | some (records, status) => taken records status state
  | none =>
    let separator := state.setting "RS"
    if isCommand then
      let state := state.flush world
      let (after, t, status) := world.answer state.world name
      taken (recordsOf separator t) status { state with world := after }
    else match world.read state.world name with
      | none => (none, state)
      | some t => taken (recordsOf separator t) 0 state

end State

end Agenda.Shell.Records
