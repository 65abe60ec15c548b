import Agenda.Shell.Expression
import Agenda.Text.Digit

/-!
# How regular expressions are written

In a basic expression the signs for groups, alternatives, numbers of repetitions, the plus and the
question mark are written with a backslash before them; in an extended one they are written
without, and a backslash makes them stand for themselves.
-/

namespace Agenda.Shell

/-- What a backslash in a list in brackets means. -/
inductive Slash
  /-- It stands for itself. -/
  | plain
  /-- The character behind it stands for itself. -/
  | quotes

/-- How expressions are written. -/
structure Dialect where
  extended : Bool := false
  /-- Whether the plus and the question mark are written without a backslash in a basic expression,
  where there are no numbers of repetitions then. -/
  bare : Bool := false
  /-- Whether an operation with nothing to repeat is dropped, and an interval that makes no sense
  stands for itself. -/
  lenient : Bool := false
  /-- Whether the end of a group that was not opened stands for itself. -/
  looseEnds : Bool := false
  /-- Whether letters and digits behind backslashes have meanings. -/
  letters : Bool := true
  slash : Slash := .plain
  /-- Whether a class of characters that is no item of a list is taken for a mistake. -/
  needsList : Bool := false

namespace Dialect

def searching (extended : Bool) : Dialect :=
  { extended, lenient := extended, looseEnds := extended, needsList := true }

def records : Dialect := { extended := true, looseEnds := true, letters := false, slash := .quotes }

def conditions : Dialect := { extended := true, looseEnds := true }

end Dialect

inductive Sign
  | single (e : Expression)
  | opens
  | closes
  | bar
  | repeats (least : Nat) (most : Option Nat)

namespace Expression

inductive Fault
  | bracketOpen
  | groupOpen
  | groupEnd
  | braceOpen
  | badInterval
  | badRange
  | badClass
  | badElement
  | badReference
  | badRepeat
  | endsEarly
  | tooLarge
  | badPattern
  | bareClass

def Fault.words : Fault → Text
  | bracketOpen => "Unmatched [, [^, [:, [., or [="
  | groupOpen => "Unmatched ( or \\("
  | groupEnd => "Unmatched ) or \\)"
  | braceOpen => "Unmatched \\\x7b"
  | badInterval => "Invalid content of \\\x7b\\\x7d"
  | badRange => "Invalid range end"
  | badClass => "Invalid character class name"
  | badElement => "Invalid collation character"
  | badReference => "Invalid back reference"
  | badRepeat => "Invalid preceding regular expression"
  | endsEarly => "Trailing backslash"
  | tooLarge => "Regular expression too big"
  | badPattern => "Invalid regular expression"
  | bareClass => "character class syntax is [[:space:]], not [:space:]"

abbrev Reading (α : Type) := Except Fault α

def classRanges? (name : Text) : Option (List (Char × Char)) :=
  let table : List (Text × List (Char × Char)) := [
    ("alpha", [('A', 'Z'), ('a', 'z')]),
    ("digit", [('0', '9')]),
    ("alnum", [('0', '9'), ('A', 'Z'), ('a', 'z')]),
    ("upper", [('A', 'Z')]),
    ("lower", [('a', 'z')]),
    ("space", [('\t', '\r'), (' ', ' ')]),
    ("blank", [('\t', '\t'), (' ', ' ')]),
    ("punct", [('!', '/'), (':', '@'), ('[', '\x60'), ('\x7b', '~')]),
    ("print", [(' ', '~')]),
    ("graph", [('!', '~')]),
    ("cntrl", [('\x00', '\x1f'), ('\x7f', '\x7f')]),
    ("xdigit", [('0', '9'), ('A', 'F'), ('a', 'f')])]
  table.lookup name

def nameBefore? (mark : Char) : Text → Option Text
  | c :: d :: rest =>
    if c = mark ∧ d = ']' then some [] else (nameBefore? mark (d :: rest)).map (c :: ·)
  | _ => none

/-- The name between two equal marks behind an opening bracket, and the number of its characters up
to the closing bracket. There is none if no mark is there, and the list has no end if the second
mark is missing. -/
def named (mark : Char) (t : Text) : Reading (Option (Text × Nat)) :=
  match t with
  | c :: rest =>
    if c ≠ mark then .ok none
    else match nameBefore? mark rest with
      | some name => .ok (some (name, name.length + 3))
      | none => .error .bracketOpen
  | [] => .ok none

/-- One character of a list in brackets that may be an end of a range, and the number of characters
that belong to it besides the first one. -/
def element (slash : Slash) (c : Char) (rest : Text) : Reading (Char × Nat) := do
  match c, slash, rest with
  | '[', _, _ =>
    match ← named '.' rest with
    | some ([c], length) => return (c, length)
    | some _ => throw .badElement
    | none => return (c, 0)
  | '\\', .quotes, d :: _ => return (d, 1)
  | c, _, _ => return (c, 0)

/-- The ranges that one item of a list in brackets writes, and the number of characters that belong
to it besides the first one. A hyphen that is not the first item must be the last one. -/
def item (slash : Slash) (first : Bool) (c : Char) (rest : Text) :
    Reading (List (Char × Char) × Nat) := do
  let (classFound, equalFound) ←
    if c = '[' then pure (← named ':' rest, ← named '=' rest) else pure (none, none)
  match classFound, equalFound with
  | some (name, length), _ =>
    match classRanges? name with
    | some ranges => return (ranges, length)
    | none => throw .badClass
  | none, some ([d], length) => return ([(d, d)], length)
  | none, some _ => throw .badElement
  | none, none =>
    let strict : Bool := match slash with
      | .plain => true
      | .quotes => false
    if c = '-' ∧ !first ∧ strict ∧ rest.head? ≠ some ']' then throw .badRange
    let (low, length) ← element slash c rest
    match rest.drop length with
    | '-' :: d :: behind =>
      if d = ']' then return ([(low, low)], length)
      else
        let (high, more) ← element slash d behind
        if low ≤ high then return ([(low, high)], length + more + 2) else throw .badRange
    | _ => return ([(low, low)], length)

/-- The ranges of a list in brackets, and the number of its characters, the closing bracket
included; `skip` characters have been read already. A closing bracket right at the start stands for
itself. -/
def items (slash : Slash) : Nat → Bool → Text → Reading (List (Char × Char) × Nat)
  | _, _, [] => .error .bracketOpen
  | skip + 1, first, _ :: rest =>
    (items slash skip first rest).map fun (ranges, length) => (ranges, length + 1)
  | 0, first, c :: rest =>
    if c = ']' ∧ !first then .ok ([], 1)
    else
      (item slash first c rest).bind fun (own, skip) =>
        (items slash skip false rest).map fun (ranges, length) => (own ++ ranges, length + 1)

/-- The list behind an opening bracket, and the number of its characters. -/
def listed (slash : Slash) (t : Text) : Reading (Expression × Nat) :=
  match t with
  | [] | ['^'] => .error .badPattern
  | '^' :: rest =>
    (items slash 0 true rest).map fun (ranges, length) => (.oneOf true ranges, length + 1)
  | t => (items slash 0 true t).map fun (ranges, length) => (.oneOf false ranges, length)

/-- Whether the inside of a list is a class that should be an item of a list. -/
def isBareClass (t : Text) : Bool :=
  2 < t.length && t.head? == some ':' && t.getLast? == some ':' && !t.contains '-' &&
    !t.contains '['

/-- A bound of an interval: none if it is missing. -/
def bound? (t : Text) : Option (Option Nat) :=
  if t.isEmpty then some none
  else if t.all Char.isDigit then some (some (min (Text.natOfDigits t) 32768)) else none

/-- The number of characters up to the end of an interval. -/
def intervalLength? (closing : Text) : Text → Option Nat
  | [] => none
  | c :: rest =>
    if closing.isPrefixOf (c :: rest) then some 0
    else (intervalLength? closing rest).map (· + 1)

/-- The numbers behind an opening brace, and the number of characters up to the end of the closing
one; none if the brace stands for itself. -/
def interval (dialect : Dialect) (t : Text) : Reading (Option (Sign × Nat)) :=
  let closing : Text := if dialect.extended then ['\x7d'] else ['\\', '\x7d']
  let unknown (fault : Fault) : Reading (Option (Sign × Nat)) :=
    if dialect.lenient then .ok none else .error fault
  match intervalLength? closing t with
  | none => unknown .braceOpen
  | some length =>
    let found (least : Nat) (most : Option Nat) : Reading (Option (Sign × Nat)) :=
      if most.any (· < least) then .error .badInterval
      else if 32767 < max least (most.getD 0) then .error .tooLarge
      else .ok (some (.repeats least most, length + closing.length))
    match ((t.take length).splitOn ',').map bound? with
    | [some (some n)] => found n (some n)
    | [some none] => .error .badInterval
    | [some least, some most] => found (least.getD 0) most
    | some _ :: some _ :: _ :: _ => .error .badInterval
    | _ => unknown .badInterval

/-- The expression of the places where a word has a side, or that of the characters of words or of
white space, by the letter behind the backslash. -/
def ofLetter? (c : Char) : Option Expression :=
  let word : List (Char × Char) := [('0', '9'), ('A', 'Z'), ('_', '_'), ('a', 'z')]
  let space : List (Char × Char) := [('\t', '\r'), (' ', ' ')]
  [('w', .oneOf false word), ('W', .oneOf true word), ('s', .oneOf false space),
    ('S', .oneOf true space), ('b', .side .wordSide), ('B', .side .noWordSide),
    ('<', .side .wordStart), ('>', .side .wordStop), ('\x60', .side .textStart),
    ('\x27', .side .textStop)].lookup c

/-- Whether an expression is that of a place, which cannot be repeated. -/
def isSide : Expression → Bool
  | side _ => true
  | _ => false

/-- The sign that a character is, the number of characters behind it that belong to it, and whether
what follows has nothing before it that can be repeated. A sign of an operation counts as one if it
is written the right way. -/
def operation (dialect : Dialect) (fresh : Bool) (c : Char) (rest : Text) :
    Reading (Option (Sign × Nat × Bool)) :=
  let repeats (least : Nat) (most : Option Nat) : Reading (Option (Sign × Nat × Bool)) :=
    .ok (some (.repeats least most, 0, false))
  match c with
  | '(' => .ok (some (.opens, 0, true))
  | ')' => .ok (some (.closes, 0, false))
  | '|' => .ok (some (.bar, 0, true))
  | '+' => if fresh then .ok none else repeats 1 none
  | '?' => if fresh then .ok none else repeats 0 (some 1)
  | '\x7b' =>
    if fresh then .ok none
    else (interval dialect rest).map fun found =>
      found.map fun (sign, length) => (sign, length, false)
  | _ => .ok none

/-- What an operation with nothing before it becomes in an extended expression. -/
def orphan (dialect : Dialect) : Reading (Sign × Nat × Bool) :=
  if dialect.lenient then .ok (.single .empty, 0, true) else .error .badRepeat

def escapedSign (dialect : Dialect) (fresh : Bool) (c : Char) (rest : Text) :
    Reading (Sign × Nat × Bool) :=
  let plain : Sign × Nat × Bool := (.single (char c), 0, false)
  let isReference := c.isDigit && c != '0'
  if dialect.letters ∧ isReference then
    .ok (.single (.again (c.toNat - '0'.toNat)), 0, false)
  else match if dialect.letters then ofLetter? c else none with
    | some e => .ok (.single e, 0, e.isSide)
    | none =>
      if dialect.extended || dialect.bare && "+?\x7b\x7d".toList.contains c then .ok plain
      else (operation dialect fresh c rest).map fun found => found.getD plain

def plainSign (dialect : Dialect) (fresh : Bool) (c : Char) (rest : Text) :
    Reading (Sign × Nat × Bool) :=
  let plain : Sign × Nat × Bool := (.single (char c), 0, false)
  match c with
  | '.' => .ok (.single .any, 0, false)
  | '[' =>
    (listed dialect.slash rest).bind fun (e, length) =>
      if dialect.needsList ∧ isBareClass (rest.take (length - 1)) then .error .bareClass
      else .ok (.single e, length, false)
  | '*' =>
    if !fresh then .ok (.repeats 0 none, 0, false)
    else if dialect.extended then orphan dialect else .ok plain
  | '^' => .ok (if dialect.extended || fresh then (.single (.side .start), 0, true) else plain)
  | '$' =>
    let ends := rest.isEmpty || Text.startsWith "\\)" rest || Text.startsWith "\\|" rest
    .ok (if dialect.extended || ends then (.single (.side .stop), 0, true) else plain)
  | c =>
    if !dialect.extended && !(dialect.bare && (c == '+' || c == '?') && !fresh) then .ok plain
    else if fresh ∧ (c = '+' ∨ c = '?' ∨ c = '\x7b') then orphan dialect
    else (operation dialect fresh c rest).map fun found => found.getD plain

/-- The signs of a written expression; `skip` characters have been read already. -/
def signs (dialect : Dialect) : Nat → Bool → Text → Reading (List Sign)
  | _, _, [] => .ok []
  | skip + 1, fresh, _ :: rest => signs dialect skip fresh rest
  | 0, fresh, '\\' :: rest =>
    match rest with
    | [] => .error .endsEarly
    | c :: behind => do
      let (sign, length, fresh) ← escapedSign dialect fresh c behind
      return sign :: (← signs dialect (length + 1) fresh rest)
  | 0, fresh, c :: rest => do
    let (sign, length, fresh) ← plainSign dialect fresh c rest
    return sign :: (← signs dialect length fresh rest)

/-- A group that has been opened: its number, the alternatives before the last bar, and what has
been read since, the last first. -/
structure Open where
  number : Nat
  earlier : Option Expression := none
  parts : List Expression := []

def Open.inside (inner : Open) : Expression :=
  let last := match inner.parts with
    | [] => .empty
    | part :: parts => parts.foldl (fun behind part => .chain part behind) part
  match inner.earlier with
  | some earlier => .either earlier last
  | none => last

/-- The groups that have been read: how many were opened, and which have ended. -/
structure Groups where
  count : Nat := 0
  ended : List Nat := []

/-- The expression that some signs write, with the groups that have been read and those that are
open. -/
def assemble (dialect : Dialect) : List Sign → Groups → Open → List Open → Reading Expression
  | [], _, inner, [] => .ok inner.inside
  | [], _, _, _ :: _ => .error .groupOpen
  | .single e :: signs, groups, inner, outer =>
    let known : Bool := match e with
      | .again number => groups.ended.contains number
      | _ => true
    if known then assemble dialect signs groups { inner with parts := e :: inner.parts } outer
    else .error .badReference
  | .opens :: signs, groups, inner, outer =>
    let number := groups.count + 1
    assemble dialect signs { groups with count := number } { number } (inner :: outer)
  | .closes :: signs, groups, inner, outer =>
    match outer with
    | [] =>
      if dialect.looseEnds then
        assemble dialect signs groups { inner with parts := char ')' :: inner.parts } []
      else .error .groupEnd
    | around :: outer =>
      assemble dialect signs { groups with ended := inner.number :: groups.ended }
        { around with parts := .group inner.number inner.inside :: around.parts } outer
  | .bar :: signs, groups, inner, outer =>
    assemble dialect signs groups { inner with earlier := some inner.inside, parts := [] } outer
  | .repeats least most :: signs, groups, inner, outer =>
    match inner.parts with
    | [] => assemble dialect signs groups inner outer
    | part :: parts =>
      assemble dialect signs groups { inner with parts := .repeated part least most :: parts } outer

/-- The expression that a text writes, or what is wrong with it. -/
def read (dialect : Dialect) (t : Text) : Reading Expression :=
  (signs dialect 0 true t).bind fun signs => assemble dialect signs {} { number := 0 } []

def read? (dialect : Dialect) (t : Text) : Option Expression := (read dialect t).toOption

end Expression

end Agenda.Shell
