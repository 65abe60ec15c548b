import Agenda.Markdown.Inline

/-!
# Runs of marks and openers

A run is a stretch of equal stars or underscores with no further one on either side. What stands
beside it decides what it can do: it opens emphasis unless a blank follows, and closes it unless a
blank stands before. An underscore beside a character of a word neither opens nor closes on that
side.

A stretch says how far emphasis reaches without holding any text: where it starts, how many marks
stand on either side, how many bits it covers, and which stretches lie inside. Laid over bits, it
makes pieces of them and drops the marks. A stretch can be laid over other bits than those that it
was found in, so that it need not end where they do.

A run that may open emphasis waits for one that closes it. While it waits it holds the stretches
that were found behind it. How many marks of a pair of runs are used, and whether a run that could
open as well closes it, is a matter of the numbers of marks on both sides.
-/

namespace Agenda.Markdown

/-! ## Runs of marks -/

inductive Mark
  | star
  | underscore
deriving DecidableEq, Repr

namespace Mark

def of? : Bit → Option Mark
  | .char '*' => some star
  | .char '_' => some underscore
  | _ => none

/-- Whether a mark on the edge towards a neighbour may be bound to the other side. -/
def free (mark : Mark) (neighbour : Option Bit) : Bool :=
  match mark with
  | star => true
  | underscore => !neighbour.any Bit.isWord

/-- Whether a run of this mark opens emphasis between two bits. -/
def opens (mark : Mark) (before after : Option Bit) : Bool :=
  !after.all Bit.isBlank && mark.free before

end Mark

/-- A run of equal marks, with the bits on its two sides. -/
structure Run where
  mark : Mark
  /-- The number of bits before it. -/
  start : Nat
  length : Nat
  before : Option Bit
  after : Option Bit

namespace Run

def opens (run : Run) : Bool := run.mark.opens run.before run.after

def closes (run : Run) : Bool := !run.before.all Bit.isBlank && run.mark.free run.after

def both (run : Run) : Bool := run.opens && run.closes

/-- Runs behind one more mark, which makes the first of them longer if it is of that kind and stands
right behind it. -/
def cons (mark : Mark) (start : Nat) (before after : Option Bit) : List Run → List Run
  | [] => [⟨mark, start, 1, before, after⟩]
  | first :: rest =>
    if first.mark = mark ∧ first.start = start + 1 then
      { first with start, before, length := first.length + 1 } :: rest
    else ⟨mark, start, 1, before, after⟩ :: first :: rest

/-- The runs of a line behind `start` bits, the last of which is given. -/
def ofBits (start : Nat) (before : Option Bit) : List Bit → List Run
  | [] => []
  | bit :: rest =>
    let behind := ofBits (start + 1) (some bit) rest
    match Mark.of? bit with
    | none => behind
    | some mark => cons mark start before rest.head? behind

end Run

/-! ## Stretches of stressed text -/

/-- A stressed text: the number of bits before it in what holds it, one mark or two on either side,
the number of bits that it covers, marks included, and the stretches inside, in their order. -/
inductive Stretch
  | mk (start width size : Nat) (inside : List Stretch)

namespace Stretch

/-- The number of bits before a stretch. -/
def start : Stretch → Nat
  | mk start _ _ _ => start

/-- The number of marks on either side. -/
def width : Stretch → Nat
  | mk _ width _ _ => width

/-- The number of bits that a stretch covers. -/
def size : Stretch → Nat
  | mk _ _ size _ => size

def inside : Stretch → List Stretch
  | mk _ _ _ inside => inside

/-- The number of bits before what is behind a stretch. -/
def stop (stretch : Stretch) : Nat := stretch.start + stretch.size

/-- A stretch whose start is counted from another bit. -/
def countedFrom (place : Nat) : Stretch → Stretch
  | mk start width size inside => mk (start - place) width size inside

/-- The stretch from one place to another, with `width` marks on either side and some stretches
inside, whose starts are counted from the same bit. Three marks are two around one. -/
def enclose (start stop width : Nat) (inside : List Stretch) : Stretch :=
  if width = 3 then
    mk start 2 (stop - start)
      [mk 2 1 (stop - start - 4) (inside.map (countedFrom (start + 2)))]
  else mk start width (stop - start) (inside.map (countedFrom start))

/-- Whether the last stretch inside holds stretches itself. The text behind it then goes on as far
as the next stretch beside the outer one, over the marks that would end it. -/
def runsOver (stretch : Stretch) : Bool :=
  stretch.inside.getLast?.any fun last => !last.inside.isEmpty

def piece (stretch : Stretch) (inside : List Bit) : Bit :=
  if stretch.width = 1 then .piece (.emphasis (Bit.settle inside))
  else .piece (.strong (Bit.settle inside))

mutual

/-- What a stretch has inside when it is laid over bits; its content ends before `stop`. -/
def content (stop : Nat) (bits : List Bit) : Stretch → List Bit
  | mk _ width _ inside => layAll width stop bits inside

def layAll (place stop : Nat) (bits : List Bit) : List Stretch → List Bit
  | [] => (bits.take stop).drop place
  | stretch :: rest =>
    let lead := (bits.take stretch.start).drop place
    let own := bits.drop stretch.start
    match (if stretch.runsOver then rest.head? else none) with
    | some next =>
      let inside := stretch.content (next.start - stretch.start) own
      lead ++ stretch.piece inside :: layAll next.start stop bits rest
    | none =>
      let inside := stretch.content (stretch.size - stretch.width) own
      lead ++ stretch.piece inside :: layAll stretch.stop stop bits rest

end

end Stretch

/-! ## Openers -/

/-- A run that waits to be closed. -/
structure Opener where
  mark : Mark
  /-- The number of bits before the marks that still wait. -/
  start : Nat
  /-- The number of marks that still wait. -/
  length : Nat
  /-- The number of marks by which it is judged: those of the whole run. -/
  size : Nat
  /-- Whether it could have closed something as well. -/
  both : Bool
  /-- Whether marks of its run are in use. -/
  used : Bool
  inside : List Stretch

namespace Opener

/-- The opener that the last `count` marks of a run make; those before them are in use or not. -/
def ofRun (run : Run) (count : Nat) (used : Bool) : Opener where
  mark := run.mark
  start := run.start + (run.length - count)
  length := count
  size := run.length
  both := run.both
  used := used
  inside := []

def hold (opener : Opener) (stretches : List Stretch) : Opener :=
  { opener with inside := opener.inside ++ stretches }

/-- How many marks two runs use when one closes the other: two if both have them, and all three if
one has just three and the other no fewer. -/
def share (first second : Nat) : Nat :=
  if min first second = 3 then 3 else if 2 ≤ min first second then 2 else 1

/-- Whether `count` marks on the other side go with those of an opener: no fewer, but not two with
one; or one or two with three or more. -/
def goesWith (opener : Opener) (count : Nat) : Bool :=
  if opener.length ≤ count then !(opener.length = 1 && count = 2)
  else count < 3 && 3 ≤ opener.length

/-- Whether the marks on both sides add up to a multiple of three. -/
def clashes (opener : Opener) (count : Nat) : Bool := (opener.size + count) % 3 = 0

/-- Whether an opener has just the marks that a run of `count` marks would use up. -/
def balances (opener : Opener) (count : Nat) : Bool :=
  opener.length = count && !opener.clashes count

/-- Whether a run that could open as well, and has used no mark yet, may close an opener with
`count` marks. -/
def meets (opener : Opener) (count : Nat) : Bool :=
  opener.goesWith count || (opener.length = 1 && count = 2 && !opener.clashes count)

/-- Whether a run that could open as well may close an opener with what is left of its `size` marks
when it has closed another. -/
def meetsAgain (opener : Opener) (size left : Nat) : Bool :=
  opener.length ≤ left || (size < 3 && 3 ≤ opener.length)

/-- Whether a run that cannot open closes this opener, of all with its mark the last, with `count`
marks. -/
def yields (opener : Opener) (count : Nat) : Bool :=
  !opener.both || opener.used || opener.length ≤ count || opener.length = 3

/-- An opener before fewer marks that could open as well: of more than three marks that could close
something as well, only the last three wait on. -/
def trim (opener : Opener) (count : Nat) : Opener :=
  if opener.both && !opener.used && 3 < opener.length && count < opener.length then
    { opener with start := opener.start + (opener.length - 3), length := 3, size := 3 }
  else opener

end Opener

end Agenda.Markdown
