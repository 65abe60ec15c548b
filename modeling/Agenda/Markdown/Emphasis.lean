import Agenda.Markdown.Reading

/-!
# Emphasis

A reading may find several stretches. The first is laid at once; the others wait, and with each it
is remembered where it is to be expected. At the next mark of the line it is decided whether the
first that waits is laid, or the runs are read anew. Since a finished piece may be as long as the
text that it stands for, a line can seem not to have changed: then the stretch is laid where the
mark is.

Emphasis is looked for from mark to mark. At each mark either a stretch that waits is laid, or the
runs from there on are read; the first stretch that is found is laid, and the search goes on behind
it. Where reading comes to the end and finds nothing, there is no more emphasis in the line. The
text behind a piece within a piece is looked through in the same way, before the text behind the
outer one.
-/

namespace Agenda.Markdown

/-! ## Stretches ahead -/

structure Waiting where
  stretch : Stretch
  /-- The number of characters that a line has before it, once the stretches before it are pieces.
  -/
  place : Nat
  /-- The number of bits between the stretch before it and this one. -/
  gap : Nat
  /-- Whether the run that closed the stretch before it was to open this one. -/
  resumes : Bool

/-- The stretches that wait, the number of characters of the line that they were found in, and
whether one of them was laid at a mark. -/
structure Ahead where
  waiting : List Waiting := []
  width : Nat := 0
  laid : Bool := false

namespace Ahead

/-- The stretches that wait behind one that was found; `place` is the number of characters before
`bits`, which start behind that one, and `start` the number of bits before them when all were found.
-/
def waitingFrom (bits : List Bit) (place start : Nat) (resumes : Bool) :
    List Found → List Waiting
  | [] => []
  | next :: rest =>
    let gap := next.stretch.start - start
    let place := place + Bit.widthAll (bits.take gap)
    ⟨next.stretch, place, gap, resumes⟩ ::
      waitingFrom (bits.drop (gap + next.stretch.size)) (place + Bit.pieceWidth)
        next.stretch.stop next.resumes rest

/-- What waits when the first stretch of some is laid; `bits` are those that they were found in,
which `place` characters stand before, and `width` is that of the whole line. -/
def behind (bits : List Bit) (place width : Nat) (first : Found) (rest : List Found) : Ahead where
  waiting :=
    waitingFrom (bits.drop first.stretch.stop)
      (place + Bit.widthAll (bits.take first.stretch.start) + Bit.pieceWidth)
      first.stretch.stop first.resumes rest
  width := width

/-- The stretch that is laid at a mark without reading, and the number of bits up to it. The mark
has `place` characters before it in a line of `width` characters; whether its run opens emphasis is
given. -/
def take? (ahead : Ahead) (place width : Nat) (opens : Bool) : Option (Nat × Stretch × Ahead) :=
  match ahead.waiting with
  | [] => none
  | next :: rest =>
    if ahead.laid || ahead.width = width then
      some (0, next.stretch, { ahead with waiting := rest })
    else if next.place = place || (!next.resumes && !opens) then
      some (0, next.stretch, { ahead with waiting := rest, laid := true })
    else if next.resumes then some (next.gap, next.stretch, { ahead with waiting := rest })
    else none

end Ahead

/-! ## Emphasis -/

/-- What comes of looking for emphasis at one bit. -/
inductive Trial
  /-- A stretch to lay, and the number of bits up to it. -/
  | found (gap : Nat) (stretch : Stretch) (ahead : Ahead)
  /-- Nothing here. -/
  | pass
  /-- Nothing from here on. -/
  | stop

namespace Trial

/-- Reads the runs from a mark on that opens emphasis. -/
def read (place width : Nat) (before : Option Bit) (bits : List Bit) : Trial :=
  let (reading, atEnd) := Reading.ofRuns (Run.ofBits 0 before bits)
  match reading.settle with
  | first :: rest =>
    found first.stretch.start first.stretch (Ahead.behind bits place width first rest)
  | [] => if atEnd then stop else pass

/-- Looks for emphasis at the first of some bits, which `place` characters of a line of `width`
stand before. -/
def of (ahead : Ahead) (place width : Nat) (before : Option Bit) (bits : List Bit) : Trial :=
  match bits.head?.bind Mark.of? with
  | none => pass
  | some mark =>
    let after := (bits.dropWhile fun bit => Mark.of? bit = some mark).head?
    let opens := mark.opens before after
    match ahead.take? place width opens with
    | some (gap, stretch, ahead) => found gap stretch ahead
    | none => if opens then read place width before bits else pass

end Trial

/-- The next stretch to lay in some bits, with the number of bits up to it. -/
def nextStretch? (ahead : Ahead) (place width : Nat) (before : Option Bit) :
    List Bit → Option (Nat × Stretch × Ahead)
  | [] => none
  | bit :: rest =>
    match Trial.of ahead place width before (bit :: rest) with
    | .found gap stretch ahead => some (gap, stretch, ahead)
    | .stop => none
    | .pass =>
      (nextStretch? ahead (place + bit.width) width (some bit) rest).map
        fun (gap, found) => (gap + 1, found)

namespace Bit

def isStressed : Bit → Bool
  | piece (.emphasis _) => true
  | piece (.strong _) => true
  | _ => false

/-- The bits before the first stressed piece, and each such piece with the bits behind it. -/
def segments : List Bit → List Bit × List (Bit × List Bit)
  | [] => ([], [])
  | bit :: rest =>
    let (lead, others) := segments rest
    if bit.isStressed then ([], (bit, lead) :: others) else (bit :: lead, others)

end Bit

/-- Goes through the bits behind some pieces with `look`. -/
def lookBehind (look : Ahead → List Bit → List Bit × Ahead) (ahead : Ahead) :
    List (Bit × List Bit) → List Bit × Ahead
  | [] => ([], ahead)
  | (piece, tail) :: rest =>
    let (tail, ahead) := look ahead tail
    let (others, ahead) := lookBehind look ahead rest
    (piece :: tail ++ others, ahead)

/-- Lays emphasis over bits, which `place` characters of their line stand before. Every piece takes
a mark away, so that there are no more pieces to be found than bits. -/
def emphasize : (steps : Nat) → Ahead → (place : Nat) → (before : Option Bit) → List Bit →
    List Bit × Ahead
  | 0, ahead, _, _, bits => (bits, ahead)
  | steps + 1, ahead, place, before, bits =>
    match nextStretch? ahead place (place + Bit.widthAll bits) before bits with
    | none => (bits, ahead)
    | some (gap, stretch, ahead) =>
      let rest := bits.drop gap
      let (lead, tails) := Bit.segments (stretch.content (stretch.size - stretch.width) rest)
      let (inside, ahead) :=
        lookBehind (fun ahead tail => emphasize steps ahead 0 none tail) ahead tails
      let piece := stretch.piece (lead ++ inside)
      let place := place + Bit.widthAll (bits.take gap) + Bit.pieceWidth
      let (others, ahead) :=
        emphasize steps ahead place (some piece) (rest.drop stretch.size)
      (bits.take gap ++ piece :: others, ahead)

def readEmphasis (bits : List Bit) : List Bit := (emphasize bits.length {} 0 none bits).1

end Agenda.Markdown
