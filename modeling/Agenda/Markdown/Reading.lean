import Agenda.Markdown.Opener

/-!
# Reading runs

Runs are read one after the other, with a stack of those that may still be closed. A run that closes
something takes openers from the stack as long as it has marks; openers above the one that it closes
are dropped, and what they hold stays. Reading ends where no opener is left. The stretches that were
found then lie side by side, with others inside them.
-/

namespace Agenda.Markdown

/-- A stretch that lies in no other, and whether an opener that its last run has left over stood
right behind it on an empty stack. -/
structure Found where
  stretch : Stretch
  resumes : Bool

/-- What is known of the runs read so far: the openers, the last one first, and the stretches before
them. -/
structure Reading where
  openers : List Opener := []
  found : List Found := []

namespace Reading

/-- A reading with stretches behind what the last opener holds, or behind all others. -/
def hold (reading : Reading) (stretches : List Stretch) : Reading :=
  match reading.openers with
  | [] => { reading with found := reading.found ++ stretches.map fun stretch => ⟨stretch, false⟩ }
  | opener :: below => { reading with openers := opener.hold stretches :: below }

/-- A reading without the openers of a mark, which are plain text from now on. -/
def dismiss (reading : Reading) (mark : Mark) : Reading :=
  reading.openers.foldr (fun opener (kept : Reading) =>
    if opener.mark = mark then kept.hold opener.inside
    else { kept with openers := opener :: kept.openers }) { reading with openers := [] }

/-- All that was found, with no opener left. -/
def settle (reading : Reading) : List Found :=
  (reading.openers.foldr (fun opener (kept : Reading) => kept.hold opener.inside)
    { reading with openers := [] }).found

/-- The opener at some depth of the stack, what lies on it, and what is below. -/
structure Hold where
  above : List Opener
  opener : Opener
  below : List Opener

def nearest? (accept : Opener → Bool) : List Opener → Option Hold
  | [] => none
  | opener :: below =>
    if accept opener then some ⟨[], opener, below⟩
    else (nearest? accept below).map fun hold => { hold with above := opener :: hold.above }

/-- Closes an opener with `width` marks that start at a place. -/
def close (reading : Reading) (hold : Hold) (place width : Nat) : Reading :=
  let opener := hold.opener
  let inside := opener.inside ++ (hold.above.reverse.map Opener.inside).flatten
  let stretch :=
    Stretch.enclose (opener.start + opener.length - width) (place + width) width inside
  let below : Reading := { reading with openers := hold.below }
  if opener.length ≤ width then below.hold [stretch]
  else
    let rest := { opener with length := opener.length - width, used := true, inside := [stretch] }
    { reading with openers := rest :: hold.below }

/-- What a run that could open as well closes next with what is left of it, and how many marks that
takes: one or two marks of an opener are used up even if the run has fewer. -/
def nextOfBoth? (reading : Reading) (run : Run) (left : Nat) : Option (Hold × Nat) := do
  let isOwn (opener : Opener) : Bool := opener.mark = run.mark
  let hold ← nearest? isOwn reading.openers
  let opener := hold.opener
  let isMet :=
    if left < run.length then opener.meetsAgain run.length left
    else opener.meets left ||
      reading.openers.any fun opener => isOwn opener && opener.balances left
  guard isMet
  if opener.length ≤ 2 then return (hold, opener.length)
  else return ({ hold with opener := opener.trim left }, Opener.share opener.length left)

/-- What a run that cannot open closes next with what is left of it, and how many marks that takes.
-/
def nextOfCloser? (reading : Reading) (run : Run) (left : Nat) : Option (Hold × Nat) := do
  let isOwn (opener : Opener) : Bool := opener.mark = run.mark
  let last ← nearest? isOwn reading.openers
  let hold ←
    if last.opener.yields left then some last
    else nearest? (fun opener => isOwn opener && (!opener.both || opener.used)) reading.openers
  return (hold, Opener.share hold.opener.length left)

/-- Closes openers with what is left of a run, in at most `steps` steps; the number of its marks
that are left then is the second part. -/
def closeWith (run : Run) : (steps : Nat) → Reading → (left : Nat) → Reading × Nat
  | 0, reading, left => (reading, left)
  | steps + 1, reading, left =>
    if left = 0 then (reading, 0)
    else
      match (if run.opens then reading.nextOfBoth? run left else reading.nextOfCloser? run left) with
      | none => (reading, left)
      | some (hold, width) =>
        closeWith run steps (reading.close hold (run.start + (run.length - left)) width)
          (left - width)

/-- The reading behind a run that may close something. One that cannot open dismisses the openers of
its mark when it has marks left; of one that can open, what is left waits, unless it had two marks
and has used one. -/
def pass (reading : Reading) (run : Run) (mayClose : Bool) : Reading :=
  let (closed, left) :=
    if mayClose && run.closes then closeWith run run.length reading run.length
    else (reading, run.length)
  let used := left < run.length
  if left = 0 then closed
  else if !run.opens then
    if mayClose && run.closes then closed.dismiss run.mark else closed
  else if used && run.length = 2 then closed
  else
    let found :=
      if used && closed.openers.isEmpty then
        closed.found.dropLast ++
          (closed.found.getLast?.map fun last => { last with resumes := true }).toList
      else closed.found
    { closed with openers := .ofRun run left used :: closed.openers, found }

/-- Reads runs until no opener is left; the second part says whether some were left at the end. -/
def readOn (reading : Reading) : List Run → Reading × Bool
  | [] => (reading, true)
  | run :: rest =>
    let reading := reading.pass run true
    if reading.openers.isEmpty then (reading, false) else reading.readOn rest

/-- Reads runs, the first of which opens emphasis. -/
def ofRuns : List Run → Reading × Bool
  | [] => ({}, false)
  | first :: rest => (Reading.pass {} first false).readOn rest

end Reading

end Agenda.Markdown
