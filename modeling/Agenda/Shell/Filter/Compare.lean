import Agenda.Shell.Filter

/-!
# Comparing lines, and changes as they are told

What makes one list of lines of another one: lines are kept, dropped and added. What is kept is a
longest list of lines that both have in the same order.

The forms in which `diff` tells what makes one file of another one, and which lines count as the
same. Lines are given with their ends, so that one without an end can be told of.
-/

namespace Agenda.Shell.Filter

/-! ## Comparing lines -/

/-- What becomes of a line. One that is kept may be another one that counts as the same. -/
inductive LineChange
  | kept (line other : Text)
  | dropped (line : Text)
  | added (line : Text)
deriving DecidableEq

namespace LineChange

def before? : LineChange → Option Text
  | kept line _ | dropped line => some line
  | added _ => none

def after? : LineChange → Option Text
  | kept _ line | added line => some line
  | dropped _ => none

def isKept : LineChange → Bool
  | kept _ _ => true
  | _ => false

/-- The numbers of lines that the rests of a list and of others have in common, for a line in front
of the list, given those without it. -/
def rowBefore (same : Text → Text → Bool) (line : Text) : List Text → List Nat → List Nat
  | [], _ => [0]
  | other :: others, below =>
    let right := rowBefore same line others below.tail
    let best := if same line other then below.tail.headD 0 + 1
      else max (below.headD 0) (right.headD 0)
    best :: right

/-- The numbers of lines that all rests of two lists have in common. -/
def table (same : Text → Text → Bool) (others : List Text) : List Text → List (List Nat)
  | [] => [List.replicate (others.length + 1) 0]
  | line :: rest =>
    let rows := table same others rest
    rowBefore same line others (rows.headD []) :: rows

/-- What makes one list of lines of another one, given the table of what their rests have in common.
-/
def between (same : Text → Text → Bool) : List Text → List Text → List (List Nat) → List LineChange
  | [], others, _ => others.map added
  | lines, [], _ => lines.map dropped
  | line :: lines, other :: others, rows =>
    let across := rows.map List.tail
    if same line other then kept line other :: between same lines others across.tail
    else if (across.headD []).headD 0 ≤ (rows.tail.headD []).headD 0 then
      dropped line :: between same lines (other :: others) rows.tail
    else added other :: between same (line :: lines) others across
termination_by lines others => lines.length + others.length

end LineChange

def lineChanges (same : Text → Text → Bool) (lines others : List Text) : List LineChange :=
  LineChange.between same lines others (LineChange.table same others lines)

/-- Lines in the place of others: how many lines stand before them in both lists, and what they are.
-/
structure Hunk where
  before : Nat
  after : Nat
  old : List Text
  new : List Text
deriving DecidableEq

/-- The places where something changes; `before` and `after` lines stand before the changes. -/
def hunksFrom : Nat → (before after : Nat) → List LineChange → List Hunk
  | 0, _, _, _ => []
  | fuel + 1, before, after, changes =>
    let kept := changes.takeWhile LineChange.isKept
    let rest := changes.dropWhile LineChange.isKept
    let own := rest.takeWhile fun change => !change.isKept
    if own.isEmpty then []
    else
      let hunk : Hunk := ⟨before + kept.length, after + kept.length,
        own.filterMap LineChange.before?, own.filterMap LineChange.after?⟩
      hunk :: hunksFrom fuel (hunk.before + hunk.old.length) (hunk.after + hunk.new.length)
        (rest.drop own.length)

def hunks (changes : List LineChange) : List Hunk := hunksFrom (changes.length + 1) 0 0 changes

/-- A part of the changes that is shown together. -/
structure ChangeWindow where
  before : Nat
  after : Nat
  changes : List LineChange

/-- The parts of changes with up to `context` kept lines around them. Changes with at most twice as
many kept lines between them are shown together. -/
def windowsFrom (context : Nat) : Nat → (before after : Nat) → List LineChange → List ChangeWindow
  | 0, _, _, _ => []
  | fuel + 1, before, after, changes =>
    let kept := changes.takeWhile LineChange.isKept
    let rest := changes.dropWhile LineChange.isKept
    if rest.isEmpty then []
    else
      let skipped := kept.length - context
      let start := changes.drop skipped
      let size := (List.range (start.length + 1)).find? fun n =>
        let ahead := start.drop n
        (start.take n).getLast?.any (!·.isKept) &&
          (2 * context < (ahead.takeWhile LineChange.isKept).length ||
            ahead.all LineChange.isKept)
      let size := min (size.getD start.length + context) start.length
      let own := start.take size
      let old := (own.filterMap LineChange.before?).length
      let new := (own.filterMap LineChange.after?).length
      ⟨before + skipped, after + skipped, own⟩ ::
        windowsFrom context fuel (before + skipped + old) (after + skipped + new) (start.drop size)

/-- The parts of changes with kept lines around them. -/
def windows (context : Nat) (changes : List LineChange) : List ChangeWindow :=
  windowsFrom context (changes.length + 1) 0 0 changes

/-! ## Changes as they are told -/

structure LineSame where
  ignoresCase : Bool := false
  /-- Whether runs of blanks count as one blank. -/
  ignoresWidth : Bool := false
  ignoresBlanks : Bool := false
  ignoresTrail : Bool := false
  ignoresReturn : Bool := false
  ignoresEnd : Bool := false

namespace LineSame

/-- A line with one space for every run of blanks. -/
def narrowed : Text → Text
  | c :: d :: rest =>
    if isGap c then
      if isGap d then narrowed (d :: rest) else ' ' :: narrowed (d :: rest)
    else c :: narrowed (d :: rest)
  | [c] => if isGap c then [' '] else [c]
  | [] => []

def key (same : LineSame) (line : Text) : Text :=
  let ended := Text.endsWith "\n" line
  let body := if ended then line.dropLast else line
  let body := if same.ignoresReturn ∧ Text.endsWith "\r" body then body.dropLast else body
  let body := if same.ignoresCase then body.map Char.toLower else body
  let withoutTrail (t : Text) : Text := (t.reverse.dropWhile isGap).reverse
  let body :=
    if same.ignoresBlanks then body.filter (!isGap ·)
    else if same.ignoresWidth then narrowed (withoutTrail body)
    else if same.ignoresTrail then withoutTrail body
    else body
  if ended || same.ignoresEnd || same.ignoresBlanks || same.ignoresWidth || same.ignoresTrail then
    body ++ ['\n']
  else body

def holds (same : LineSame) (line other : Text) : Bool := same.key line == same.key other

end LineSame

inductive ChangeForm
  | plain
  | unified (context : Nat)
  /-- With the lines before and those afterwards apart. -/
  | apart (context : Nat)
  /-- As commands for an editor, the last one first. -/
  | commands
  /-- As commands with numbers of lines. -/
  | counted
  | beside (width : Nat) (onlyChanges : Bool)

namespace ChangeForm

/-- A line behind a mark; it is told if its end is missing. -/
def marked (mark line : Text) : Text :=
  if Text.endsWith "\n" line then mark ++ line
  else mark ++ line ++ "\n\\ No newline at end of file\n"

/-- A range of lines: the numbers of the first and the last one. -/
def range (start count : Nat) : Text :=
  if count ≤ 1 then Text.ofNat (start + count) else
    Text.ofNat (start + 1) ++ ',' :: Text.ofNat (start + count)

def plainHunk (hunk : Hunk) : Text :=
  let head : Text :=
    if hunk.old.isEmpty then
      Text.ofNat hunk.before ++ 'a' :: range hunk.after hunk.new.length
    else if hunk.new.isEmpty then
      range hunk.before hunk.old.length ++ 'd' :: Text.ofNat hunk.after
    else range hunk.before hunk.old.length ++ 'c' :: range hunk.after hunk.new.length
  head ++ '\n' :: hunk.old.flatMap (marked "< ") ++
    (if hunk.old.isEmpty ∨ hunk.new.isEmpty then [] else "---\n".toList) ++
    hunk.new.flatMap (marked "> ")

def commandHunk (hunk : Hunk) : Text :=
  let lines := hunk.new.flatMap fun line =>
    if Text.endsWith "\n" line then line else line ++ ['\n']
  let place := range hunk.before hunk.old.length
  if hunk.new.isEmpty then place ++ "d\n"
  else if hunk.old.isEmpty then Text.ofNat hunk.before ++ "a\n" ++ lines ++ ".\n"
  else place ++ "c\n" ++ lines ++ ".\n"

/-- A change as commands with numbers of lines. -/
def countedHunk (hunk : Hunk) : Text :=
  (if hunk.old.isEmpty then []
    else 'd' :: Text.ofNat (hunk.before + 1) ++ ' ' :: Text.ofNat hunk.old.length ++ ['\n']) ++
  (if hunk.new.isEmpty then []
    else 'a' :: Text.ofNat (hunk.before + hunk.old.length) ++
      ' ' :: Text.ofNat hunk.new.length ++ '\n' :: hunk.new.flatten)

def unifiedRange (start count : Nat) : Text :=
  if count = 1 then Text.ofNat (start + 1)
  else Text.ofNat (if count = 0 then start else start + 1) ++ ',' :: Text.ofNat count

def unifiedWindow (window : ChangeWindow) : Text :=
  let old := (window.changes.filterMap LineChange.before?).length
  let new := (window.changes.filterMap LineChange.after?).length
  "@@ -" ++ unifiedRange window.before old ++ " +" ++ unifiedRange window.after new ++ " @@\n" ++
    window.changes.flatMap fun
      | .kept line _ => marked " " line
      | .dropped line => marked "-" line
      | .added line => marked "+" line

/-- A part of changes with the lines before and those afterwards apart. -/
def contextWindow (window : ChangeWindow) : Text :=
  let blocks := window.changes.splitBy fun a b => a.isKept == b.isKept
  let side (own : LineChange → Option Text) (mark : Char) : Text :=
    blocks.flatMap fun block =>
      let both := block.any (fun change => change.before?.isNone) &&
        block.any fun change => change.after?.isNone
      block.flatMap fun change =>
        let mark := if change.isKept then ' ' else if both then '!' else mark
        match own change with
        | some line => marked [mark, ' '] line
        | none => []
  let old := (window.changes.filterMap LineChange.before?).length
  let new := (window.changes.filterMap LineChange.after?).length
  let drops := window.changes.any fun change => change.after?.isNone
  let adds := window.changes.any fun change => change.before?.isNone
  "***************\n*** " ++ range window.before old ++ " ****\n" ++
    (if drops then side LineChange.before? '-' else []) ++
    "--- " ++ range window.after new ++ " ----\n" ++
    if adds then side LineChange.after? '+' else []

/-- Blanks from one column to another one, with tabs up to the last stop in between. -/
def gapTo (start stop : Nat) : Text :=
  if start / 8 < stop / 8 then
    List.replicate (stop / 8 - start / 8) '\t' ++ List.replicate (stop % 8) ' '
  else List.replicate (stop - start) ' '

/-- As much of a line as fits in a width from a column on, without its end, and the column behind
it.
-/
def half (width column : Nat) (line : Text) : Text × Nat :=
  let body := if Text.endsWith "\n" line then line.dropLast else line
  let (t, used) := body.foldl (fun (t, used) c =>
    if c = '\t' then
      let spaces := 8 - used % 8
      if used + spaces ≤ width then (t ++ List.replicate spaces ' ', used + spaces) else (t, width)
    else if used < width then (t ++ [c], used + 1)
    else (t, used)) (([] : Text), 0)
  (t, column + used)

/-- A line before and one afterwards beside each other, with a sign between them. -/
def besideLine (width : Nat) (sign : Char) (left right : Option Text) : Text :=
  let offset := (width + 11) / 16 * 8
  let room := min (offset - 3) (width - offset)
  let (t, column) := match left with
    | some line => half room 0 line
    | none => ([], 0)
  let middle := (room + offset - 1) / 2
  let ended (line : Option Text) : Bool := line.any (Text.endsWith "\n")
  let (gap, column) : Text × Nat :=
    if sign = ' ' then ([], column)
    else
      let sign := if sign = '|' && ended left != ended right then
          if ended left then '/' else '\\'
        else sign
      (gapTo column middle ++ [sign], middle + 1)
  let behind : Text := match right with
    | some line =>
      if line = ['\n'] then [] else gapTo column offset ++ (half room offset line).1
    | none => []
  t ++ gap ++ behind ++ if ended left || ended right then ['\n'] else []

def besideLines (width : Nat) : (old new : List Text) → Text
  | line :: old, other :: new =>
    besideLine width '|' (some line) (some other) ++ besideLines width old new
  | old, [] => old.flatMap fun line => besideLine width '<' (some line) none
  | [], new => new.flatMap fun line => besideLine width '>' none (some line)

def besideText (width : Nat) (onlyChanges : Bool) (changes : List LineChange) : Text :=
  (changes.splitBy fun a b => a.isKept == b.isKept).flatMap fun block =>
    let old := block.filterMap LineChange.before?
    let new := block.filterMap LineChange.after?
    if !block.all LineChange.isKept then besideLines width old new
    else if onlyChanges then []
    else (old.zip new).flatMap fun (line, other) =>
      besideLine width ' ' (some line) (some other)

/-- What is told of changes, behind the names of the files if there are any. -/
def told (form : ChangeForm) (names : Text × Text) (changes : List LineChange) : Text :=
  match form with
  | plain => (hunks changes).flatMap plainHunk
  | commands => (hunks changes).reverse.flatMap commandHunk
  | counted => (hunks changes).flatMap countedHunk
  | unified context =>
    "--- " ++ names.1 ++ "\n+++ " ++ names.2 ++ "\n" ++
      (windows context changes).flatMap unifiedWindow
  | apart context =>
    "*** " ++ names.1 ++ "\n--- " ++ names.2 ++ "\n" ++
      (windows context changes).flatMap contextWindow
  | beside width onlyChanges => besideText width onlyChanges changes

end ChangeForm

end Agenda.Shell.Filter
