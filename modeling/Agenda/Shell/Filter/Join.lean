import Agenda.Shell.Filter

/-!
# Lines in common and joined lines

How `comm` lines up the lines of two sorted files: those of the first one only, of the second one
only, and of both. Lines that are not in order are told of as soon as one is found that has no
partner.

The lines of two files that have the same key, joined to one line each. Files are to be in the order
of their keys; one that is not is told of once a line without a partner is found.
-/

namespace Agenda.Shell.Filter

/-! ## Lines in common -/

/-- When it is told that lines are not in order. -/
inductive OrderCheck
  | never
  | fromFirstLone
  | always
deriving DecidableEq

/-- What comes out when lines are lined up. -/
inductive Told
  | line (line : Text)
  | complaint (words : Text)

def Told.complains : Told → Bool
  | line _ => false
  | complaint _ => true

/-- How lines are lined up. -/
structure Lineup where
  check : OrderCheck
  /-- The columns that are left out. -/
  without : List Nat
  separator : Text
  total : Bool
  mark : Char

/-- What is known while lines are lined up: the last line of each file, whether a line without
partner was found, the files that are known not to be in order, and how many lines the columns have.
-/
structure LineupState where
  last : Nat → Option Text := fun _ => none
  lone : Bool := false
  disordered : List Nat := []
  counts : Nat → Nat := fun _ => 0

namespace Lineup

def shown (lineup : Lineup) (column : Nat) (line : Text) : List Told :=
  if lineup.without.contains column then []
  else
    let before := (List.range column).filter fun n => n ≠ 0 ∧ !lineup.without.contains n
    [.line ((List.replicate before.length lineup.separator).flatten ++ line)]

/-- Tells that a file is not in order if the first of two lines does not come first. -/
def checked (lineup : Lineup) (state : LineupState) (file : Nat) (first second : Text) :
    LineupState × List Told :=
  let applies := lineup.check = .always || (lineup.check = .fromFirstLone && state.lone)
  if applies && second < first && !state.disordered.contains file then
    ({ state with disordered := file :: state.disordered },
      [.complaint ("file " ++ Text.ofNat file ++ " is not in sorted order")])
  else (state, [])

/-- Goes behind a line of a file: it is compared with the next one, or at the end of the file with
the one before. -/
def goBehind (lineup : Lineup) (state : LineupState) (file : Nat) (line : Text) (rest : List Text) :
    LineupState × List Told :=
  let (state, told) := match rest.head?, state.last file with
    | some next, _ => lineup.checked state file line next
    | none, some before => lineup.checked state file before line
    | none, none => (state, [])
  ({ state with last := fun n => if n = file then some line else state.last n }, told)

def count (state : LineupState) (column : Nat) : LineupState :=
  { state with
    lone := state.lone || column != 3
    counts := fun n => if n = column then state.counts n + 1 else state.counts n }

/-- What comes out of two files. -/
def told (lineup : Lineup) (state : LineupState) : List Text → List Text →
    LineupState × List Told
  | [], [] => (state, [])
  | line :: rest, [] =>
    let state := count state 1
    let (state, behind) := lineup.goBehind state 1 line rest
    let (state, others) := lineup.told state rest []
    (state, lineup.shown 1 line ++ behind ++ others)
  | [], line :: rest =>
    let state := count state 2
    let (state, behind) := lineup.goBehind state 2 line rest
    let (state, others) := lineup.told state [] rest
    (state, lineup.shown 2 line ++ behind ++ others)
  | line :: lines, other :: others =>
    if line = other then
      let state := count state 3
      let (state, behind) := lineup.goBehind state 1 line lines
      let (state, behindOther) := lineup.goBehind state 2 other others
      let (state, rest) := lineup.told state lines others
      (state, lineup.shown 3 line ++ behind ++ behindOther ++ rest)
    else if line < other then
      let state := count state 1
      let (state, behind) := lineup.goBehind state 1 line lines
      let (state, rest) := lineup.told state lines (other :: others)
      (state, lineup.shown 1 line ++ behind ++ rest)
    else
      let state := count state 2
      let (state, behind) := lineup.goBehind state 2 other others
      let (state, rest) := lineup.told state (line :: lines) others
      (state, lineup.shown 2 other ++ behind ++ rest)
termination_by lines others => lines.length + others.length

def of (lineup : Lineup) (first second : Text) : List Told :=
  let (state, told) := lineup.told {} (linesAt lineup.mark first) (linesAt lineup.mark second)
  let total := if lineup.total then
      [Told.line (Text.join lineup.separator
        ((([1, 2, 3].map state.counts).map Text.ofNat) ++ [("total" : Text)]))]
    else []
  let ending := if state.disordered.isEmpty then []
    else [Told.complaint "input is not in sorted order"]
  match lineup.check, told.findIdx? Told.complains with
  | .always, some index => told.take (index + 1)
  | _, _ => told ++ total ++ ending

def ofOptions (options : Options) : Lineup where
  check := match options.lastOf "oO" with
    | some 'o' => .always
    | some _ => .never
    | none => .fromFirstLone
  without := ([('1', 1), ('2', 2), ('3', 3)].filter fun column => options.has column.1).map (·.2)
  separator := match options.value? 'd' with
    | none => ['\t']
    | some [] => ['\x00']
    | some separator => raw separator
  total := options.has 't'
  mark := lineMark options

end Lineup

/-! ## Joined lines -/

/-- A line in fields: its key, and all its fields. -/
structure Keyed where
  line : Text
  key : Text
  fields : List Text

inductive JoinFields
  | all
  /-- As many fields of each file as its first line has. -/
  | asFirst
  /-- Fields of files, or keys for the number zero. -/
  | chosen (fields : List (Nat × Nat))

structure Joining where
  separator : Option Char
  /-- The places of the keys in the lines of the two files, from zero on. -/
  places : Nat × Nat
  /-- What stands for a field that a line does not have. -/
  filler : Text
  fields : JoinFields
  /-- The files of which lines without a partner are printed. -/
  alone : List Nat
  /-- Whether lines with a partner are printed. -/
  pairs : Bool
  ignoresCase : Bool
  check : OrderCheck
  titled : Bool
  mark : Char

/-- What is left of a file while it is joined, and the number of the first line of that. -/
structure JoinSide where
  lines : List Keyed
  number : Nat := 1

/-- What is known while files are joined. -/
structure JoinState where
  first : JoinSide
  second : JoinSide
  /-- Whether a line without a partner was found. -/
  lone : Bool := false
  /-- The files that are known not to be in order. -/
  disordered : List Nat := []
  /-- Whether that ended the work. -/
  stopped : Bool := false
  told : List Told := []

namespace Joining

def fieldsOf (joining : Joining) (line : Text) : List Text :=
  match joining.separator with
  | some separator => if line.isEmpty then [] else line.splitOn separator
  | none =>
    let isBlank (c : Char) : Bool := c == ' ' || c == '\t' || c == '\n'
    let words := (line.splitBy fun c d => isBlank c == isBlank d).filter fun word => !word.all isBlank
    if !words.isEmpty ∧ line.getLast?.any isBlank then words ++ [[]] else words

def keyed (joining : Joining) (place : Nat) (line : Text) : Keyed :=
  let fields := joining.fieldsOf line
  let key := fields.getD place []
  ⟨line, if joining.ignoresCase then key.map Char.toUpper else key, fields⟩

/-- The line that is printed for a line of each file, of which one may be missing; `counts` are the
numbers of fields of the first lines. -/
def line (joining : Joining) (counts : Nat × Nat) (first second : Option Keyed) : Text :=
  let filled (t : Text) : Text := if t.isEmpty then joining.filler else t
  let own (keyed : Option Keyed) : List Text := (keyed.map Keyed.fields).getD []
  let key := match first, second with
    | some keyed, _ => keyed.fields.getD joining.places.1 []
    | none, some keyed => keyed.fields.getD joining.places.2 []
    | none, none => []
  let upTo (count : Nat) (fields : List Text) : List Text :=
    fields.take count ++ List.replicate (count - fields.length) []
  let fields := match joining.fields with
    | .chosen chosen => chosen.map fun (file, place) =>
      if file = 0 then key else (own (if file = 1 then first else second)).getD place []
    | .asFirst => key :: (upTo counts.1 (own first)).eraseIdx joining.places.1 ++
      (upTo counts.2 (own second)).eraseIdx joining.places.2
    | .all => key :: (own first).eraseIdx joining.places.1 ++
      (own second).eraseIdx joining.places.2
  Text.join [joining.separator.getD ' '] (fields.map filled)

/-- The first line of some that comes before the one in front of it, counted from the first of them.
-/
def misplaced? : List Keyed → Option (Nat × Keyed)
  | a :: b :: rest =>
    if b.key < a.key then some (1, b)
    else (misplaced? (b :: rest)).map fun (n, line) => (n + 1, line)
  | _ => none

/-- Tells of a file if some of its next lines are not in order. `names` are those of the files. -/
def checked (joining : Joining) (names : Nat → Text) (state : JoinState) (file count : Nat) :
    JoinState :=
  let side := if file = 1 then state.first else state.second
  let applies := joining.check = .always || (joining.check = .fromFirstLone && state.lone)
  match misplaced? (side.lines.take (count + 1)) with
  | some (n, bad) =>
    if !applies ∨ state.disordered.contains file then state
    else { state with
      disordered := file :: state.disordered
      stopped := joining.check = .always
      told := state.told ++ [.complaint (names file ++ ":" ++ Text.ofNat (side.number + n) ++
        ": is not sorted: " ++ bad.line)] }
  | none => state

def goBehind (joining : Joining) (names : Nat → Text) (state : JoinState) (file count : Nat) :
    JoinState :=
  let state := joining.checked names state file count
  let moved (side : JoinSide) : JoinSide := ⟨side.lines.drop count, side.number + count⟩
  if file = 1 then { state with first := moved state.first }
  else { state with second := moved state.second }

/-- Tells a line that is printed for some lines. -/
def tell (joining : Joining) (counts : Nat × Nat) (state : JoinState) (first second : Option Keyed) :
    JoinState :=
  { state with told := state.told ++ [.line (joining.line counts first second)] }

/-- Goes behind the first line of a file, which has no partner. -/
def passLone (joining : Joining) (names : Nat → Text) (counts : Nat × Nat) (state : JoinState)
    (file : Nat) (line : Keyed) : JoinState :=
  let state :=
    if !joining.alone.contains file then state
    else if file = 1 then joining.tell counts state (some line) none
    else joining.tell counts state none (some line)
  joining.goBehind names state file 1

/-- Goes behind all lines that are left of a file. -/
def passRest (joining : Joining) (names : Nat → Text) (counts : Nat × Nat) (file : Nat) :
    List Keyed → JoinState → JoinState
  | [], state => state
  | line :: rest, state =>
    if state.stopped then state
    else joining.passRest names counts file rest (joining.passLone names counts state file line)

/-- Joins the lines of two files. -/
def run (joining : Joining) (names : Nat → Text) (counts : Nat × Nat) :
    Nat → JoinState → JoinState
  | 0, state => state
  | fuel + 1, state =>
    if state.stopped then state
    else match state.first.lines, state.second.lines with
    | [], rest => joining.passRest names counts 2 rest state
    | rest, [] => joining.passRest names counts 1 rest state
    | a :: rest, b :: others =>
      if a.key < b.key then
        joining.run names counts fuel
          { joining.passLone names counts state 1 a with lone := true }
      else if b.key < a.key then
        joining.run names counts fuel
          { joining.passLone names counts state 2 b with lone := true }
      else
        let these := a :: rest.takeWhile (·.key = b.key)
        let state := joining.goBehind names state 1 these.length
        let those := b :: others.takeWhile (·.key = a.key)
        let state := if state.stopped then state
          else joining.goBehind names state 2 those.length
        if state.stopped then state
        else
          let pairs := if joining.pairs then these.flatMap fun one => those.map (one, ·) else []
          joining.run names counts fuel (pairs.foldl (fun state (one, other) =>
            joining.tell counts state (some one) (some other)) state)

def of (joining : Joining) (names : Nat → Text) (first second : Text) : List Told :=
  let first := (linesAt joining.mark first).map (joining.keyed joining.places.1)
  let second := (linesAt joining.mark second).map (joining.keyed joining.places.2)
  let count (lines : List Keyed) : Nat := (lines.head?.map fun line => line.fields.length).getD 0
  let counts := (count first, count second)
  let state : JoinState :=
    if joining.titled ∧ (!first.isEmpty ∨ !second.isEmpty) then
      joining.tell counts
        { first := ⟨first.tail, 2⟩, second := ⟨second.tail, 2⟩ } first.head? second.head?
    else { first := ⟨first, 1⟩, second := ⟨second, 1⟩ }
  let state := joining.run names counts (first.length + second.length + 1) state
  state.told ++ if !state.stopped && !state.disordered.isEmpty then
    [.complaint "input is not in sorted order"] else []

/-- The place of a field, from zero on. -/
def placeOf (value : Text) : Except Misuse Nat :=
  match whole? value with
  | some 0 | none => .error (.badValue "field number" value)
  | some n => .ok (n - 1)

/-- The field that a word names: the key, or a file and a place. -/
def fieldOf (word : Text) : Except Misuse (Nat × Nat) :=
  let wrong : Except Misuse (Nat × Nat) := .error (.badValue "field specifier" word)
  match word with
  | ['0'] => .ok (0, 0)
  | '0' :: _ => wrong
  | '1' :: '.' :: value => (placeOf value).map (1, ·)
  | '2' :: '.' :: value => (placeOf value).map (2, ·)
  | '1' :: _ | '2' :: _ => wrong
  | word => .error (.badValue "file number in field spec" word)

/-- The value of an option that has to be the same wherever it is given. -/
def oneOf {α : Type} [DecidableEq α] (clash : α → α → Misuse) : List α → Except Misuse (Option α)
  | a :: b :: rest => if a = b then oneOf clash (b :: rest) else .error (clash a b)
  | values => .ok values.head?

def ofOptions (options : Options) : Except Misuse Joining := do
  let clash (a b : Nat) : Misuse :=
    .other [("incompatible join fields " : Text) ++ Text.ofNat a ++ ", " ++ Text.ofNat b] false
  let place (letter : Char) : Except Misuse Nat := do
    let values := (options.filter fun option => option.1 = letter || option.1 = 'j').map (·.2)
    return (← oneOf clash (← values.mapM placeOf)).getD 0
  let places := (← place '1', ← place '2')
  let separators ← (options.values 't').mapM fun value =>
    match raw value with
    | [] => pure '\n'
    | [c] => pure c
    | ['\\', '0'] => pure '\x00'
    | _ => refuse ("multi-character tab " ++ Misuse.marked value)
  let separator ← oneOf (fun _ _ => .other [("incompatible tabs" : Text)] false) separators
  let filler ← oneOf (fun _ _ =>
    .other [("conflicting empty-field replacement strings" : Text)] false) (options.values 'e')
  let alone ← (options.filter fun option => option.1 = 'a' || option.1 = 'v').mapM fun option =>
    match option.2 with
    | ['1'] => pure 1
    | ['2'] => pure 2
    | value => throw (Misuse.badValue "field number" value)
  let fields ← match options.values 'o' with
    | [] => pure JoinFields.all
    | lists =>
      if lists = ["auto".toList] then pure JoinFields.asFirst
      else
        let words := lists.flatMap fun list =>
          (list.map fun c => if c = ' ' || c = '\t' then ',' else c).splitOn ','
        JoinFields.chosen <$> words.mapM fieldOf
  return {
    separator, places, alone, fields
    filler := raw (filler.getD [])
    pairs := !options.has 'v'
    ignoresCase := options.has 'i'
    check := match options.lastOf "CN" with
      | some 'C' => .always
      | some _ => .never
      | none => .fromFirstLone
    titled := options.has 'H'
    mark := lineMark options }

end Joining

end Agenda.Shell.Filter
