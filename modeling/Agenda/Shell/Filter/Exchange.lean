import Agenda.Shell.Expression.Reader
import Agenda.Shell.Filter

/-!
# Exchanging characters

How `tr` exchanges characters for others, removes them, or keeps only one of several equal ones next
to each other. Sets of characters are written as characters, ranges, classes and repetitions. Main
statement: characters that are not in the first set stay as they are.
-/

namespace Agenda.Shell.Filter

/-- A character of a set, and whether a backslash stands before it. -/
structure SetSign where
  sign : Char
  escaped : Bool
deriving DecidableEq

/-- One item of a set of characters: characters in their order, or one that is repeated, as often as
is needed if no number says how often. -/
inductive SetItem
  | listed (signs : Text)
  | named (name : Text) (signs : Text)
  | alike (c : Char)
  | filling (c : Char) (count : Nat)

namespace SetSign

/-- The character that a letter behind a backslash stands for. -/
def special? (letter : Char) : Option Char :=
  [('a', '\x07'), ('b', '\x08'), ('f', '\x0c'), ('n', '\n'), ('r', '\r'), ('t', '\t'),
    ('v', '\x0b')].lookup letter

/-- The signs of a set, and warnings about what else they might be. -/
def read : Nat → Text → List SetSign × List (List Text)
  | 0, _ => ([], [])
  | fuel + 1, t =>
    let goesOn (sign : Char) (escaped : Bool) (rest : Text) : List SetSign × List (List Text) :=
      let (signs, warnings) := read fuel rest
      (⟨sign, escaped⟩ :: signs, warnings)
    match t with
    | [] => ([], [])
    | ['\\'] => ([⟨'\\', false⟩],
        [["warning: an unescaped backslash at end of string is not portable"]])
    | '\\' :: c :: rest =>
      let digits := octalDigits 3 (c :: rest)
      if digits.isEmpty then goesOn ((special? c).getD c) true rest
      else if Nat.ofDigitChars 8 digits 0 < 256 then
        goesOn (octal digits) true ((c :: rest).drop digits.length)
      else
        let (signs, warnings) := goesOn (octal (digits.take 2)) true ((c :: rest).drop 2)
        (signs, [("warning: the ambiguous octal escape \\" : Text) ++ digits ++ " is being",
          ("\tinterpreted as the 2-byte sequence \\0" : Text) ++ digits.take 2 ++ ", " ++
            digits.drop 2] :: warnings)
    | c :: rest => goesOn c false rest

def isMark (sign : SetSign) (mark : Char) : Bool := sign.sign == mark && !sign.escaped

def textOf (signs : List SetSign) : Text := signs.map SetSign.sign

def beforeEnd? (mark : Char) : List SetSign → Option (List SetSign)
  | a :: b :: rest =>
    if a.isMark mark && b.isMark ']' then some []
    else (beforeEnd? mark (b :: rest)).map (a :: ·)
  | _ => none

/-- The signs before a closing bracket, none of them behind a backslash. -/
def beforeBracket? : List SetSign → Option (List SetSign)
  | [] => none
  | a :: rest =>
    if a.escaped then none
    else if a.sign = ']' then some []
    else (beforeBracket? rest).map (a :: ·)

end SetSign

namespace SetItem

def charactersBetween (low high : Char) : Text :=
  (List.range' low.toNat (high.toNat + 1 - low.toNat)).map Char.ofNat

/-- The number that says how often a character is repeated. -/
def countOf (digits : Text) : Except Misuse Nat :=
  let wrong : Except Misuse Nat :=
    refuse ("invalid repeat count " ++ Misuse.marked digits ++ " in [c*n] construct")
  if digits.isEmpty then .ok 0
  else if digits.head? = some '0' then
    if digits.all isOctal then .ok (Nat.ofDigitChars 8 digits 0) else wrong
  else if digits.all Char.isDigit then .ok (Text.natOfDigits digits)
  else wrong

def shownSign (c : Char) : Text :=
  if ' ' ≤ c ∧ c ≤ '~' then [c]
  else
    let digits := Nat.toDigits 8 c.toNat
    '\\' :: List.replicate (3 - digits.length) '0' ++ digits

/-- What stands between an opening bracket with a colon or an equals sign behind it and the end of
that, and the number of signs. -/
def bracketed? (signs : List SetSign) : Option (Char × Text × Nat) :=
  match signs with
  | first :: mark :: rest =>
    if first.isMark '[' ∧ (mark.isMark ':' ∨ mark.isMark '=') then
      (SetSign.beforeEnd? mark.sign rest).map fun inner =>
        (mark.sign, SetSign.textOf inner, inner.length + 4)
    else none
  | _ => none

/-- Whether signs repeat a character: what it is, how often, and the number of signs. -/
def repeated? (signs : List SetSign) : Option (Char × Text × Nat) :=
  match signs with
  | first :: c :: star :: rest =>
    if first.isMark '[' ∧ star.isMark '*' then
      (SetSign.beforeBracket? rest).map fun digits =>
        (c.sign, SetSign.textOf digits, digits.length + 4)
    else none
  | _ => none

def itemsOf : Nat → List SetSign → Except Misuse (List SetItem)
  | 0, _ => .ok []
  | fuel + 1, signs =>
    let goesOn (item : SetItem) (count : Nat) : Except Misuse (List SetItem) :=
      (itemsOf fuel (signs.drop count)).map (item :: ·)
    let other : Except Misuse (List SetItem) :=
      match repeated? signs, signs with
      | some (c, digits, length), _ => do
        let count ← countOf digits
        goesOn (.filling c count) length
      | none, low :: dash :: high :: _ =>
        if dash.isMark '-' then
          if low.sign ≤ high.sign then goesOn (.listed (charactersBetween low.sign high.sign)) 3
          else refuse ("range-endpoints of '" ++ shownSign low.sign ++ "-" ++
            shownSign high.sign ++ "' are in reverse collating sequence order")
        else goesOn (.listed [low.sign]) 1
      | none, c :: _ => goesOn (.listed [c.sign]) 1
      | none, [] => .ok []
    match bracketed? signs with
    | some (':', [], _) => refuse "missing character class name '[::]'"
    | some (_, [], _) => refuse "missing equivalence class character '[==]'"
    | some (':', name, length) =>
      match Expression.classRanges? name with
      | some ranges => goesOn (.named name (ranges.flatMap fun (low, high) =>
          charactersBetween low high)) length
      | none =>
        if (repeated? signs).isSome then other
        else refuse ("invalid character class " ++ Misuse.marked name)
    | some (_, [c], length) => goesOn (.alike c) length
    | some (_, name, _) =>
      if (repeated? signs).isSome then other
      else refuse (name ++ ": equivalence class operand must be a single character")
    | none => other

/-- The characters of an item; one that fills up does so with a number of them. -/
def characters (fill : Nat) : SetItem → Text
  | listed signs | named _ signs => signs
  | alike c => [c]
  | filling c count => List.replicate (if count = 0 then fill else count) c

/-- The characters of some items, filled up to a length. -/
def all (length : Nat) (items : List SetItem) : Text :=
  let own := (items.flatMap (characters 0)).length
  items.flatMap (characters (length - own))

def fills : SetItem → Bool
  | filling _ 0 => true
  | _ => false

/-- Whether an item is a class whose characters have partners in another one. -/
def isCase : SetItem → Bool
  | named name _ => name == "upper".toList || name == "lower".toList
  | _ => false

/-- The places at which classes of capital or small letters start. -/
def casePlaces (fill : Nat) : (place : Nat) → List SetItem → List Nat
  | _, [] => []
  | place, item :: rest =>
    (if item.isCase then [place] else []) ++
      casePlaces fill (place + (item.characters fill).length) rest

end SetItem

/-- What is done to characters. -/
structure Exchange where
  /-- Whether a character is in the first set. -/
  holds : Char → Bool
  /-- The characters that others take the place of, with these. -/
  pairs : List (Char × Char)
  removes : Bool
  /-- Whether only one of several equal characters next to each other is kept. -/
  squeezes : Char → Bool

namespace Exchange

/-- One of several equal characters next to each other, for the characters of a set. -/
def squeeze (set : Char → Bool) : Text → Text
  | c :: d :: rest =>
    if c = d ∧ set c then squeeze set (d :: rest) else c :: squeeze set (d :: rest)
  | t => t

/-- The character in the place of another one. -/
def change (exchange : Exchange) (c : Char) : Char := (exchange.pairs.lookup c).getD c

def of (exchange : Exchange) (t : Text) : Text :=
  let kept := if exchange.removes then t.filter fun c => !exchange.holds c else t
  squeeze exchange.squeezes (kept.map exchange.change)

/-- The operands of an exchange, as far as there are enough of them and not too many. -/
def checkOperands (removes squeezes : Bool) (sets : List Text) : Except Misuse Unit := do
  let least := if removes == squeezes then 2 else 1
  let most := if removes && !squeezes then 1 else 2
  if sets.length < least then
    match sets with
    | [] => throw (Misuse.fewOperands none)
    | last :: _ => throw (.other [(Misuse.fewOperands (some last)).words,
        if squeezes then
          "Two strings must be given when both deleting and squeezing repeats."
        else "Two strings must be given when translating."] true)
  else match sets.drop most with
    | [] => return
    | extra :: _ => throw (.other ((Misuse.excessOperand extra).words ::
        if sets.length = 2 then
          ["Only one string may be given when deleting without squeezing repeats."]
        else []) true)

def pairsOf (truncates others : Bool) (items second : List SetItem) (first : Text) :
    Except Misuse (List (Char × Char)) := do
  let fill := first.length - (second.flatMap (SetItem.characters 0)).length
  let isAlike : SetItem → Bool
    | .alike _ => true
    | _ => false
  let isClass : SetItem → Bool
    | .named _ _ => true
    | _ => false
  if second.any isAlike then
    refuse "[=c=] expressions may not appear in string2 when translating"
  if second.any fun item => isClass item && !item.isCase then
    throw (.other ["when translating, the only character classes that may appear in",
      "string2 are 'upper' and 'lower'"] false)
  let places := SetItem.casePlaces 0 0 items
  if !others && (SetItem.casePlaces fill 0 second).any fun place => !places.contains place then
    refuse "misaligned [:upper:] and/or [:lower:] construct"
  let goals := SetItem.all first.length second
  if goals.length < first.length ∧ !truncates ∧ goals.isEmpty then
    refuse "when not truncating set1, string2 must be non-empty"
  if goals.length < first.length ∧ !truncates ∧ second.getLast?.any isClass then
    throw (.other ["when translating with string1 longer than string2,",
      "the latter string must not end with a character class"] false)
  if others && items.any isClass && goals.eraseDups.length ≠ 1 then
    throw (.other ["when translating with complemented character classes,",
      "string2 must map all characters in the domain to one"] false)
  let first := if truncates then first.take goals.length else first
  let pairs := first.zipIdx.map fun (c, n) => (c, (goals[n]?).getD (goals.getLastD c))
  return pairs.reverse

/-- What options and operands ask for, and warnings about it. -/
def ofOptions (options : Options) (sets : List Text) :
    Except Misuse (Exchange × List (List Text)) := do
  let removes := options.has 'd'
  let squeezes := options.has 's'
  let others := options.has 'c' || options.has 'C'
  checkOperands removes squeezes sets
  let signs := sets.map fun set => SetSign.read ((raw set).length + 1) (raw set)
  let sets ← signs.mapM fun (signs, _) => SetItem.itemsOf (signs.length + 1) signs
  let items := sets.headD []
  if items.any SetItem.fills then
    refuse "the [c*] repeat construct may not appear in string1"
  let listed := SetItem.all 0 items
  let everything := SetItem.charactersBetween '\x00' (Char.ofNat 255)
  let first := if others then everything.filter fun c => !listed.contains c else listed
  let second := sets.getD 1 []
  if 1 < (second.filter SetItem.fills).length then
    refuse "only one [c*] repeat construct may appear in string2"
  let translates := !removes && sets.length = 2
  if !translates ∧ second.any SetItem.fills then
    refuse "the [c*] construct may appear in string2 only when translating"
  let pairs ← if translates then pairsOf (options.has 't') others items second first else pure []
  let squeezed := if sets.length = 2 then SetItem.all first.length second else first
  return ({
    holds := first.contains
    pairs
    removes
    squeezes := fun c => squeezes && squeezed.contains c }, signs.flatMap (·.2))

end Exchange

end Agenda.Shell.Filter
