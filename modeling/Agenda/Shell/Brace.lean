import Agenda.Shell.Syntax
import Agenda.Text.Digit

/-!
# Braces

A word of the larger language with a list or a range in braces stands for several words, one for
each item: `a{b,c}` for `ab` and `ac`, and `{1..3}` for three numbers. Of several braces
the first one varies most slowly.
-/

namespace Agenda.Shell.Brace

/-- A piece of a word: a plain character, or a part that braces do not look into. -/
inductive Piece
  | char (c : Char)
  | part (part : Part)

def pieces (word : Word) : List Piece :=
  word.flatMap fun
    | .plain false t => t.map Piece.char
    | part => [.part part]

def wordOf : List Piece → Word
  | [] => []
  | .part part :: rest => part :: wordOf rest
  | .char c :: rest =>
    match wordOf rest with
    | .plain false t :: parts => .plain false (c :: t) :: parts
    | parts => .plain false [c] :: parts

/-- The items in a pair of braces, of which the first is at hand, and what is behind them. -/
def cutItems (depth : Nat) (item : List Piece) :
    List Piece → Option (List (List Piece) × List Piece)
  | [] => none
  | piece :: rest =>
    match piece with
    | .char '\x7b' => cutItems (depth + 1) (item ++ [piece]) rest
    | .char '\x7d' =>
      if depth = 0 then some ([item], rest) else cutItems (depth - 1) (item ++ [piece]) rest
    | .char ',' =>
      if depth = 0 then
        (cutItems 0 [] rest).map fun (items, behind) => (item :: items, behind)
      else cutItems depth (item ++ [piece]) rest
    | piece => cutItems depth (item ++ [piece]) rest

/-- The characters of pieces that are all plain. -/
def text? (pieces : List Piece) : Option Text :=
  pieces.mapM fun
    | .char c => some c
    | .part _ => none

def integer? (t : Text) : Option Int :=
  let digits := if t.head? = some '-' then t.tail else t
  if !digits.isEmpty && digits.all Char.isDigit then
    some (if t.head? = some '-' then -(Text.natOfDigits digits : Int) else Text.natOfDigits digits)
  else none

/-- The numbers from one to another one in steps, upwards or downwards. -/
def numbers (first last : Int) (step : Nat) : List Int :=
  let step := max step 1
  let count := (last - first).natAbs / step + 1
  (List.range count).map fun k : Nat =>
    if first ≤ last then first + (k * step : Nat) else first - (k * step : Nat)

/-- The items of a range: numbers, all as wide as the widest end if one of them starts with a zero,
or letters. -/
def range? (t : Text) : Option (List Text) :=
  let parts : List Text := match t.splitOn '.' with
    | [first, [], last] => [first, last]
    | [first, [], last, [], step] => [first, last, step]
    | _ => []
  let ends : Option (Text × Text × Option Nat) := match parts with
    | [first, last] => some (first, last, some 1)
    | [first, last, step] => some (first, last, (integer? step).map Int.natAbs)
    | _ => none
  match ends with
  | some (first, last, some step) =>
    match integer? first, integer? last, first, last with
    | some m, some n, _, _ =>
      let isFilled (t : Text) : Bool :=
        let digits := t.filter (· ≠ '-')
        1 < digits.length && digits.head? == some '0'
      let width := if isFilled first || isFilled last then max first.length last.length else 0
      some ((numbers m n step).map fun k =>
        let sign : Text := if k < 0 then ['-'] else []
        sign ++ Text.padNat (width - sign.length) k.natAbs)
    | _, _, [c], [d] =>
      if c.isAlpha ∧ d.isAlpha then
        some ((numbers c.toNat d.toNat step).map fun k => [Char.ofNat k.toNat])
      else none
    | _, _, _, _ => none
  | _ => none

/-- The words that the pieces of a word stand for; `front` are the pieces before those at hand. -/
def expandFrom : Nat → List Piece → List Piece → List (List Piece)
  | 0, front, pieces => [front ++ pieces]
  | _ + 1, front, [] => [front]
  | fuel + 1, front, piece :: rest =>
    match piece with
    | .char '\x7b' =>
      match cutItems 0 [] rest with
      | some ([item], behind) =>
        match (text? item).bind range? with
        | some texts =>
          texts.flatMap fun t => expandFrom fuel (front ++ t.map Piece.char) behind
        | none => expandFrom fuel (front ++ [piece]) rest
      | some (items, behind) => items.flatMap fun item => expandFrom fuel front (item ++ behind)
      | none => expandFrom fuel (front ++ [piece]) rest
    | piece => expandFrom fuel (front ++ [piece]) rest

def expand (word : Word) : List Word :=
  let pieces := pieces word
  (expandFrom (pieces.length + 1) [] pieces).map wordOf

end Agenda.Shell.Brace
