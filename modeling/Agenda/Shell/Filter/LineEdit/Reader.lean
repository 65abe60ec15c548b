import Agenda.Shell.Expression.Reader
import Agenda.Shell.Filter.LineEdit

/-!
# How line edits are written

The scripts of `sed` as they are written: every step is a letter, with addresses before it and what
it needs behind it.
-/

namespace Agenda.Shell.LineEdit

/-- What is wrong with a script. -/
inductive Misfit
  /-- Some words, and how many characters are left behind the place that they are about. -/
  | here (words : Text) (left : Nat)
  | nowhere (words : Text)
  | noLabel (name : Text)

abbrev Reading (α : Type) := Except Misfit α

def wrong {α : Type} (words left : Text) : Reading α := .error (.here words left.length)

/-- The character that a letter behind a backslash writes, and how many characters write it, the
letter included. -/
def written? (t : Text) : Option (Char × Nat) :=
  let coded (base count : Nat) (isDigit : Char → Bool) (t : Text) : Option (Char × Nat) :=
    let digits := (t.take count).takeWhile isDigit
    if digits.isEmpty then none
    else some (Char.ofNat
      (digits.foldl (fun n c => base * n + (Text.hexValue? c).getD 0) 0 % 256), digits.length + 1)
  match t with
  | 'x' :: rest => coded 16 2 (fun c => (Text.hexValue? c).isSome) rest
  | 'o' :: rest => coded 8 3 (fun c => '0' ≤ c && c ≤ '7') rest
  | 'd' :: rest => coded 10 3 Char.isDigit rest
  | 'c' :: c :: _ => some (Char.ofNat (c.toUpper.toNat ^^^ 64), 2)
  | c :: _ => ([('n', '\n'), ('t', '\t'), ('r', '\r'), ('a', '\x07'), ('f', '\x0c'),
      ('v', '\x0b')].lookup c).map (·, 1)
  | [] => none

/-- A text with the characters that its backslashes write; the other backslashes stay. -/
def written : Nat → Text → Text
  | _, [] => []
  | skip + 1, _ :: rest => written skip rest
  | 0, '\\' :: rest =>
    match written? rest, rest with
    | some (c, length), _ => c :: written length rest
    | none, c :: _ => '\\' :: c :: written 1 rest
    | none, [] => ['\\']
  | 0, c :: rest => c :: written 0 rest

/-- A text up to a separator, and what is behind it, or what is left where the line ends too early.
A backslash before a separator is dropped. -/
def cutField (separator : Char) : Text → Except Text (Text × Text)
  | [] => .error []
  | '\\' :: c :: rest =>
    (cutField separator rest).map fun (inside, behind) =>
      (if c = separator then c :: inside else '\\' :: c :: inside, behind)
  | c :: rest =>
    if c = separator then .ok ([], rest)
    else if c = '\n' then .error (c :: rest)
    else (cutField separator rest).map fun (inside, behind) => (c :: inside, behind)

/-- An expression up to a separator, which may stand in a list in brackets, and what is behind it;
`skip` characters belong to such a list. -/
def cutExpression (separator : Char) : Nat → Text → Except Text (Text × Text)
  | _, [] => .error []
  | skip + 1, c :: rest =>
    (cutExpression separator skip rest).map fun (inside, behind) => (c :: inside, behind)
  | 0, '\\' :: c :: rest =>
    (cutExpression separator 0 rest).map fun (inside, behind) =>
      (if c = separator then c :: inside else '\\' :: c :: inside, behind)
  | 0, c :: rest =>
    if c = separator then .ok ([], rest)
    else if c = '\n' then .error (c :: rest)
    else
      let skip : Nat := match Expression.listed .plain rest with
        | .ok (_, length) => if c = '[' then length else 0
        | .error .bracketOpen => if c = '[' then rest.length else 0
        | .error _ => 0
      (cutExpression separator skip rest).map fun (inside, behind) => (c :: inside, behind)

def dropGap (t : Text) : Text := t.dropWhile fun c => c = ' ' ∨ c = '\t'

/-- A number at the start of a text, and what is behind it. -/
def numberAt (t : Text) : Nat × Text :=
  let digits := t.takeWhile Char.isDigit
  (Text.natOfDigits digits, t.drop digits.length)

/-- The pattern that a text writes with some letters behind it; an empty text stands for the one
that was looked for before. -/
def pattern (extended : Bool) (t letters left : Text) : Reading (Option Pattern) :=
  if t.isEmpty then .ok none
  else match Expression.read { extended } (written 0 t) with
    | .ok e =>
      let byLines := letters.contains 'm' || letters.contains 'M'
      .ok (some ⟨letters.contains 'i' || letters.contains 'I', if byLines then e.byLines else e⟩)
    | .error fault => wrong fault.words left

def addressLetters : Nat → Text → Text × Text
  | 0, t => ([], t)
  | fuel + 1, t =>
    match dropGap t with
    | c :: rest =>
      if c = 'I' ∨ c = 'M' then
        let (letters, behind) := addressLetters fuel rest
        (c :: letters, behind)
      else ([], t)
    | [] => ([], t)

/-- An address at the start of a text, if there is one, and what is behind it. -/
def address (extended : Bool) (t : Text) : Reading (Option Address × Text) :=
  let matching (separator : Char) (rest : Text) : Reading (Option Address × Text) :=
    match cutExpression separator 0 rest with
    | .error left => wrong "unterminated address regex" left
    | .ok (inside, behind) => do
      let (letters, behind) := addressLetters behind.length behind
      return (some (.found (← pattern extended inside letters behind)), behind)
  match t with
  | '$' :: rest => .ok (some .last, rest)
  | '/' :: rest => matching '/' rest
  | '\\' :: separator :: rest => matching separator rest
  | c :: _ =>
    if c.isDigit then
      let (n, rest) := numberAt t
      match dropGap rest with
      | '~' :: rest =>
        let (step, rest) := numberAt (dropGap rest)
        .ok (some (if step = 0 then .line n else .every n step), rest)
      | _ => .ok (some (.line n), rest)
    else .ok (none, t)
  | [] => .ok (none, [])

/-- The end of a range behind its comma. -/
def stop (extended : Bool) (t : Text) : Reading (Stop × Text) :=
  match t with
  | '+' :: rest => .ok (.further (numberAt rest).1, (numberAt rest).2)
  | '~' :: rest => .ok (.multiple (numberAt rest).1, (numberAt rest).2)
  | t => do
    match ← address extended t with
    | (some address, rest) => return (.atLine address, rest)
    | (none, rest) => wrong "unexpected \x60,'" rest.tail

/-- Whether the first address of a scope may be what it is: before the first line, only a range that
stops where a pattern is found can start. -/
def Scope.isSound (scope : Scope) : Bool :=
  match scope.start, scope.stop with
  | some (.line 0), some (.atLine (.found _)) => true
  | some (.line 0), _ => false
  | _, _ => true

/-- The scope of a step, and what is behind it. -/
def scope (extended : Bool) (t : Text) : Reading (Scope × Text) := do
  match t with
  | '+' :: rest | '~' :: rest =>
    wrong "invalid usage of +N or ~N as first address" (numberAt (dropGap rest)).2
  | _ =>
    let (start, t) ← address extended t
    let (stop, t) ← match start, dropGap t with
      | some _, ',' :: rest => do
        let (stop, t) ← stop extended (dropGap rest)
        pure (some stop, dropGap t)
      | some _, t => pure (none, t)
      | none, _ => pure (none, t)
    let found : Scope := { start, stop }
    if !found.isSound then wrong "invalid usage of line address 0" t.tail
    match t with
    | '!' :: rest =>
      match dropGap rest with
      | '!' :: rest => wrong "multiple \x60!'s" rest
      | rest => return ({ found with others := true }, rest)
    | _ => return (found, t)

/-- What is behind a step that needs nothing more: it has to end here. -/
def endOfStep (t : Text) : Reading Text :=
  match dropGap t with
  | [] => .ok []
  | ';' :: rest | '\n' :: rest => .ok rest
  | '\x7d' :: rest => .ok ('\x7d' :: rest)
  | '#' :: rest => .ok ('#' :: rest)
  | _ :: rest => wrong "extra characters after command" rest

/-- The rest of a text that a step prints, as it is written, and what is behind it: it goes up to
the end of a line that has no backslash before it. -/
def block : Text → Text × Text
  | [] => ([], [])
  | '\\' :: c :: rest =>
    let (t, behind) := block rest
    ('\\' :: c :: t, behind)
  | c :: rest =>
    if c = '\n' then ([], rest)
    else if c = '\\' then ([], rest)
    else
      let (t, behind) := block rest
      (c :: t, behind)

/-- A text with the characters that its backslashes write; `skip` characters belong to one that was
written before. -/
def unslashed : Nat → Text → Text
  | _, [] => []
  | skip + 1, _ :: rest => unslashed skip rest
  | 0, '\\' :: rest =>
    match written? rest, rest with
    | some (c, length), _ => c :: unslashed length rest
    | none, c :: _ => c :: unslashed 1 rest
    | none, [] => []
  | 0, c :: rest => c :: unslashed 0 rest

/-- The text that a step prints, and what is behind it. It may start in a line of its own behind a
backslash, and what is behind a backslash in the first line keeps its blanks. -/
def printedText (t : Text) : Reading (Text × Text) :=
  let found (written : Text × Text) : Reading (Text × Text) :=
    .ok (unslashed 0 (written.1 ++ ['\n']), written.2)
  match dropGap t with
  | [] => wrong "expected \\ after \x60a', \x60c' or \x60i'" []
  | '\\' :: rest =>
    match rest with
    | [] => .ok ([], [])
    | '\n' :: rest => found (block rest)
    | c :: rest =>
      let (own, behind) := block rest
      found (c :: own, behind)
  | rest => found (block rest)

def labelAt (t : Text) : Text × Text :=
  let t := dropGap t
  let name := t.takeWhile fun c => !";\x7d \t\n".toList.contains c
  (name, t.drop name.length)

/-- The name of a file, which goes up to the end of the line, and what is behind it. -/
def fileName (t : Text) : Reading (Text × Text) :=
  let t := dropGap t
  let name := t.takeWhile (· ≠ '\n')
  if name.isEmpty then wrong "missing filename in r/R/w/W commands" (t.drop name.length)
  else .ok (name, t.drop (name.length + 1))

/-- What is written behind a substitution. -/
structure Flags where
  letters : Text := []
  first : Option Nat := none
  goal : Option Text := none

/-- The flags of a substitution, and what is behind it. -/
def flags : Nat → Flags → Text → Reading (Flags × Text)
  | 0, found, t => .ok (found, t)
  | fuel + 1, found, t =>
    match t with
    | [] => .ok (found, [])
    | '\n' :: rest | ';' :: rest => .ok (found, rest)
    | '\x7d' :: _ | '#' :: _ => .ok (found, t)
    | c :: rest =>
      if c = ' ' ∨ c = '\t' then flags fuel found rest
      else if c = 'w' then do
        let (name, behind) ← fileName rest
        return ({ found with goal := some name }, behind)
      else if c.isDigit then
        let (n, rest) := numberAt t
        if found.first.isSome then wrong "multiple number options to \x60s' command" rest
        else if n = 0 then wrong "number option to \x60s' command may not be zero" rest
        else flags fuel { found with first := some n } rest
      else if (c = 'g' ∨ c = 'p') ∧ found.letters.contains c then
        wrong ("multiple \x60" ++ c :: "' options to \x60s' command") rest
      else if "gpiImM".toList.contains c then
        flags fuel { found with letters := c :: found.letters } rest
      else wrong "unknown option to \x60s'" rest

def groupCount : Expression → Nat
  | .group number inside => max number (groupCount inside)
  | .chain first second | .either first second => max (groupCount first) (groupCount second)
  | .repeated inside _ _ => groupCount inside
  | _ => 0

/-- The largest number of a group that a replacement names. -/
def largestReference : Text → Nat
  | '\\' :: c :: rest =>
    max (if c.isDigit then c.toNat - '0'.toNat else 0) (largestReference rest)
  | _ :: rest => largestReference rest
  | [] => 0

/-- A replacement with the characters that its backslashes write, unless they mean something else.
-/
def replacement : Nat → Text → Text
  | _, [] => []
  | skip + 1, _ :: rest => replacement skip rest
  | 0, '\\' :: rest =>
    match written? rest, rest with
    | some (c, length), _ =>
      if c = '&' ∨ c = '\\' then '\\' :: c :: replacement length rest
      else c :: replacement length rest
    | none, c :: _ => '\\' :: c :: replacement 1 rest
    | none, [] => ['\\']
  | 0, c :: rest => c :: replacement 0 rest

/-- A substitution behind its letter, and what is behind it. -/
def substitution (extended : Bool) (t : Text) : Reading (Edit × Text) :=
  let fields : Except Text (Text × Text × Text) := do
    let separator ← match t with
      | c :: _ => if c = '\n' ∨ c = '\\' then .error t else .ok c
      | [] => .error []
    let (old, t) ← cutExpression separator 0 t.tail
    let (new, t) ← cutField separator t
    return (old, new, t)
  match fields with
  | .error left => wrong "unterminated \x60s' command" left
  | .ok (old, new, t) => do
    let (found, behind) ← flags (t.length + 1) {} t
    let pattern ← pattern extended old found.letters behind
    let most := largestReference new
    if pattern.any fun pattern => groupCount pattern.e < most then
      wrong ("invalid reference \\" ++ Text.ofNat most ++ " on \x60s' command's RHS") behind
    return (.substitute {
      pattern, new := replacement 0 new, first := found.first.getD 1
      everywhere := found.letters.contains 'g'
      prints := found.letters.contains 'p', goal := found.goal }, behind)

/-- The characters of an exchange, with what backslashes stand for. -/
def signs : Nat → Text → Text
  | _, [] => []
  | skip + 1, _ :: rest => signs skip rest
  | 0, '\\' :: '\\' :: rest => '\\' :: signs 0 rest
  | 0, '\\' :: rest =>
    match written? rest with
    | some (c, length) => c :: signs length rest
    | none => '\\' :: signs 0 rest
  | 0, c :: rest => c :: signs 0 rest

/-- An exchange behind its letter, and what is behind it. -/
def exchange (t : Text) : Reading (Edit × Text) :=
  let fields : Except Text (Text × Text × Text) := do
    let separator ← match t with
      | c :: _ => .ok c
      | [] => .error []
    let (old, t) ← cutField separator t.tail
    let (new, t) ← cutField separator t
    return (old, new, t)
  match fields with
  | .error left => wrong "unterminated \x60y' command" left
  | .ok (old, new, t) => do
    let old := signs 0 old
    let new := signs 0 new
    if old.length ≠ new.length then
      wrong "strings for \x60y' command are different lengths" t
    return (.exchange (old.zip new), ← endOfStep t)

def plainEdit? (letter : Char) : Option Edit :=
  let table : List (Char × Edit) := [('d', .delete), ('D', .deleteFirst), ('p', .print),
    ('P', .printFirst), ('=', .number), ('F', .name), ('n', .next), ('N', .addNext), ('h', .keep),
    ('H', .addToKept), ('g', .fetch), ('G', .addKept), ('x', .swap), ('z', .clear)]
  table.lookup letter

/-- The edit of a letter with what is behind it, and what is left. -/
def editOf (extended : Bool) (scope : Scope) (letter : Char) (t : Text) :
    Reading (Edit × Text) := do
  let printing (make : Text → Edit) : Reading (Edit × Text) :=
    (printedText t).map fun (own, behind) => (make own, behind)
  let jumping (make : Text → Edit) : Reading (Edit × Text) := do
    let (name, behind) := labelAt t
    return (make name, ← endOfStep behind)
  let naming (make : Text → Edit) : Reading (Edit × Text) :=
    (fileName t).map fun (name, behind) => (make name, behind)
  let quitting (prints : Bool) : Reading (Edit × Text) :=
    if scope.stop.isSome then wrong "command only uses one address" t
    else do
      let (status, behind) := numberAt (dropGap t)
      return (.quit prints status, ← endOfStep behind)
  match letter with
  | 's' => substitution extended t
  | 'y' => exchange t
  | 'a' => printing .append
  | 'i' => printing .insert
  | 'c' => printing .replace
  | 'q' => quitting true
  | 'Q' => quitting false
  | 'l' =>
    let digits := (dropGap t).takeWhile Char.isDigit
    let (n, behind) := numberAt (dropGap t)
    return (.spell (if digits.isEmpty then none else some n), ← endOfStep behind)
  | 'b' => jumping .jump
  | 't' => jumping (.jumpIf true)
  | 'T' => jumping (.jumpIf false)
  | ':' =>
    if scope.start.isSome then wrong ": doesn't want any addresses" t
    else
      let (name, behind) := labelAt t
      if name.isEmpty then wrong "\":\" lacks a label" behind
      else return (.label name, ← endOfStep behind)
  | 'r' => naming .appendFile
  | 'R' => naming .appendLine
  | 'w' => naming .printTo
  | 'W' => naming .printFirstTo
  | '\x7b' => return (.opens, t)
  | '\x7d' => return (.closes, ← endOfStep t)
  | letter =>
    match plainEdit? letter with
    | some edit => return (edit, ← endOfStep t)
    | none => wrong ("unknown command: \x60" ++ letter :: "'") t

/-- The scopes and edits of a script; every step takes at least one of its `fuel` characters, and
`depth` blocks have been opened. -/
def stepsFrom (extended : Bool) : Nat → (depth : Nat) → Text → Reading (List (Scope × Edit))
  | 0, _, _ => .ok []
  | fuel + 1, depth, t =>
    match t.dropWhile fun c => c = ' ' ∨ c = '\t' ∨ c = ';' ∨ c = '\n' with
    | [] => if depth = 0 then .ok [] else .error (.nowhere "unmatched \x60\x7b'")
    | t => do
      let (scope, t) ← scope extended t
      match t with
      | [] => wrong "missing command" []
      | '#' :: rest =>
        if scope.start.isSome then wrong "comments don't accept any addresses" rest
        else stepsFrom extended fuel depth (rest.dropWhile (· ≠ '\n'))
      | letter :: rest =>
        if letter = '\x7d' then
          if depth = 0 then wrong "unexpected \x60\x7d'" rest
          else if scope.start.isSome then wrong "\x7d doesn't want any addresses" rest
        let (edit, rest) ← editOf extended scope letter rest
        let depth := match edit with
          | .opens => depth + 1
          | .closes => depth - 1
          | _ => depth
        return (scope, edit) :: (← stepsFrom extended fuel depth rest)

/-- The label that a step jumps to, if there is no such label. -/
def missingGoal? (edits : List Edit) (edit : Edit) : Option Text :=
  match edit with
  | .jump name | .jumpIf _ name =>
    let isThere := name.isEmpty || edits.any fun
      | .label own => own == name
      | _ => false
    if isThere then none else some name
  | _ => none

def read (extended : Bool) (script : Text) : Reading (List Step) := do
  let steps ← stepsFrom extended (script.length + 1) 0 script
  let edits := steps.map (·.2)
  match edits.findSome? (missingGoal? edits) with
  | some name => throw (.noLabel name)
  | none => return steps.zipIdx.map fun ((scope, edit), place) => { place, scope, edit }

end Agenda.Shell.LineEdit
