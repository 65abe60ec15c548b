import Agenda.Markdown.Inline

/-!
# Links in a line

A link is a text in brackets with a target in parentheses right behind it. The target may hold
parentheses in pairs and may be followed by a title in quotation marks. From the first quotation
mark on it stays open whether a title has begun, and parentheses do not count; what they would have
meant is remembered for the case that the title is not closed.
-/

namespace Agenda.Markdown.Link

/-- What stands before the bracket that closes `depth` open ones, and what stands behind it. -/
def balanced? (depth : Nat) : List Bit → Option (List Bit × List Bit)
  | [] => none
  | bit :: rest =>
    if bit.is ']' then
      if depth ≤ 1 then some ([], rest)
      else (balanced? (depth - 1) rest).map fun (inside, behind) => (bit :: inside, behind)
    else
      let depth := if bit.is '[' then depth + 1 else depth
      (balanced? depth rest).map fun (inside, behind) => (bit :: inside, behind)

/-- A target, a title, and the bits behind the link. -/
structure Target where
  target : List Bit
  title : Option (List Bit) := none
  behind : List Bit

def dropBlanks (bits : List Bit) : List Bit := bits.dropWhile Bit.isBlank

/-- The bits up to a character and those behind it, if `accept` holds of the former. -/
def until? (mark : Char) (accept : Bit → Bool) (bits : List Bit) : Option (List Bit × List Bit) :=
  match bits.span fun bit => !bit.is mark && accept bit with
  | (inside, bit :: behind) => if bit.is mark then some (inside, behind) else none
  | (_, []) => none

def quoted? (bits : List Bit) : Option (List Bit × List Bit) :=
  match bits with
  | .char c :: rest => if c = '\x22' ∨ c = '\x27' then until? c (fun _ => true) rest else none
  | _ => none

/-- The bits behind a closing parenthesis, which blanks may stand before. -/
def closed? (bits : List Bit) : Option (List Bit) :=
  match dropBlanks bits with
  | bit :: behind => if bit.is ')' then some behind else none
  | [] => none

/-- A target in angle brackets, with or without a title. -/
def inAngles? (bits : List Bit) : Option Target := do
  let (target, rest) ← match bits with
    | .char '<' :: rest => until? '>' (fun bit => !bit.is '<') rest
    | _ => none
  match quoted? (dropBlanks rest) with
  | some (title, rest) =>
    let behind ← closed? rest
    return { target, title := some title, behind }
  | none =>
    let behind ← closed? rest
    return { target, behind }

/-- A quotation mark that was met, with the place behind it and the place behind the last one like
it. -/
structure Quote where
  mark : Char
  start : Nat
  stop : Option Nat := none

/-- A reading of what is behind an opening parenthesis, up to some place. -/
structure Scan where
  /-- The number of parentheses that are open. -/
  depth : Nat := 1
  /-- The number that would be open if there were no title. -/
  spare : Nat := 1
  /-- The first quotation mark, and the first one of the other kind. -/
  first : Option Quote := none
  second : Option Quote := none
  last : Option Bit := none
  /-- Where the link would end if there were no title. -/
  retreat : Option Nat := none

namespace Scan

/-- Whether the last bit closed a title. -/
def hasClosed (scan : Scan) (quote : Option Quote) : Bool :=
  quote.any fun quote => quote.stop.isSome && scan.last.any (·.is quote.mark)

/-- The reading behind a parenthesis that opens at a place. -/
def opening (scan : Scan) : Scan :=
  if scan.first.isNone then { scan with depth := scan.depth + 1 }
  else { scan with spare := scan.spare - 1 }

/-- The reading behind a parenthesis that closes at a place. -/
def closing (scan : Scan) (place : Nat) : Scan :=
  if scan.hasClosed scan.first || scan.hasClosed scan.second then { scan with depth := 0 }
  else if scan.first.isNone then { scan with depth := scan.depth - 1 }
  else if scan.spare = 1 then { scan with spare := 0, retreat := some place }
  else { scan with spare := scan.spare - 1 }

def quotation (scan : Scan) (mark : Char) (place : Nat) : Scan :=
  match scan.first, scan.second with
  | none, _ => { scan with spare := scan.depth, depth := 1, first := some ⟨mark, place + 1, none⟩ }
  | some first, none =>
    if first.mark = mark then { scan with first := some { first with stop := some place } }
    else { scan with second := some ⟨mark, place + 1, none⟩ }
  | some first, some second =>
    if first.mark = mark then { scan with first := some { first with stop := some place } }
    else { scan with second := some { second with stop := some place } }

def step (scan : Scan) (place : Nat) (bit : Bit) : Scan :=
  match bit with
  | .char '(' => scan.opening
  | .char ')' => scan.closing place
  | .char '\x22' => scan.quotation '\x22' place
  | .char '\x27' => scan.quotation '\x27' place
  | _ => scan

/-- The target and the title in some bits, up to the place of the parenthesis that closes them. -/
def targetAt (scan : Scan) (bits : List Bit) (place : Nat) : Target :=
  let quote := if scan.hasClosed scan.first then scan.first
    else if scan.hasClosed scan.second then scan.second else none
  let behind := bits.drop (place + 1)
  match quote with
  | none => { target := bits.take place, behind }
  | some quote =>
    { target := bits.take (quote.start - 1)
      title := some ((bits.take (quote.stop.getD 0)).drop quote.start)
      behind }

/-- What is left when no parenthesis closes the link: it ends where it would without a title. If all
that a title has hidden are opening parentheses, all but the last bit is lost. -/
def giveUp? (scan : Scan) (bits : List Bit) : Option Target :=
  if scan.spare ≠ 0 then none
  else match scan.retreat with
    | some place => some { target := bits.take place, behind := bits.drop (place + 1) }
    | none => some { target := bits.take (bits.length - 2), behind := bits.drop (bits.length - 1) }

/-- Reads on in `rest`, which is what `bits` have from a place on. -/
def run? (bits : List Bit) (scan : Scan) (place : Nat) : List Bit → Option Target
  | [] => scan.giveUp? bits
  | bit :: rest =>
    let next := scan.step place bit
    if next.depth = 0 then some (scan.targetAt bits place)
    else run? bits (if bit.is ' ' then next else { next with last := some bit }) (place + 1) rest

end Scan

/-- The target behind an opening parenthesis. -/
def target? (bits : List Bit) : Option Target :=
  let bits := dropBlanks bits
  (inAngles? bits).or (Scan.run? bits {} 0 bits)

/-- The text of a title: blanks are spaces, and a pair of quotation marks around it is dropped. -/
def titleText (bits : List Bit) : Text :=
  let t := Text.trim (Bit.plain bits)
  let isQuoted := ['\x22', '\x27'].any fun mark =>
    t.head? == some mark && t.getLast? == some mark
  (if isQuoted then (t.drop 1).dropLast else t).map fun c => if Text.isBlank c then ' ' else c

/-- The rule for links. An exclamation mark before the bracket makes it no link. -/
def rule (readText : List Bit → List Inline) : Rule := fun before bits => do
  guard (!Bit.startWith '!' before.toList)
  match bits with
  | .char '[' :: rest =>
    let (text, rest) ← balanced? 1 rest
    match rest with
    | .char '(' :: rest =>
      let found ← target? rest
      let target := Text.trim (Bit.plain found.target)
      return (.piece (.link target (found.title.map titleText) (readText text)), found.behind)
    | _ => none
  | _ => none

end Agenda.Markdown.Link
