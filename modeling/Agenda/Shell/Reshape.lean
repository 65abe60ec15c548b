import Agenda.Shell.Syntax
import Agenda.Shell.Wildcard

/-!
# Reshaped values

What can be done to the value of a parameter on its way into a word: a start or an end is dropped, a
part is taken out or replaced, or letters become capitals or small ones.
-/

namespace Agenda.Shell

/-- The shortest or longest start of a text that a pattern accepts is dropped. -/
def dropStart (longest : Bool) (fits : Text → Bool) (t : Text) : Text :=
  let cuts := (List.range (t.length + 1)).filter fun n => fits (t.take n)
  match if longest then cuts.getLast? else cuts.head? with
  | some n => t.drop n
  | none => t

/-- The shortest or longest end of a text that a pattern accepts is dropped. -/
def dropEnd (longest : Bool) (fits : Text → Bool) (t : Text) : Text :=
  let cuts := (List.range (t.length + 1)).filter fun n => fits (t.drop n)
  match if longest then cuts.head? else cuts.getLast? with
  | some n => t.take n
  | none => t

def dropLineEnds (t : Text) : Text := (t.reverse.dropWhile (· == '\n')).reverse

/-- The characters from a place on, at most so many. A place below zero counts from the end, and a
number below zero leaves so many out at the end. -/
def slice (start : Int) (length : Option Int) (t : Text) : Text :=
  let size : Int := t.length
  let start := if start < 0 then start + size else start
  if start < 0 then []
  else
    let rest := t.drop start.toNat
    match length with
    | none => rest
    | some length =>
      if 0 ≤ length then rest.take length.toNat else rest.take (rest.length + length).toNat

/-- The length of the longest start of a text that a pattern accepts, if it is not empty. -/
def longestStart? (fits : Text → Bool) (t : Text) : Option Nat :=
  ((List.range' 1 t.length).filter fun n => fits (t.take n)).getLast?

/-- A text with what a pattern finds changed, once or everywhere; `skip` characters are part of what
has been found already. -/
def replaceFrom (everywhere : Bool) (fits : Text → Bool) (change : Text → Text) :
    Nat → Text → Text
  | _, [] => []
  | skip + 1, _ :: rest => replaceFrom everywhere fits change skip rest
  | 0, c :: rest =>
    match longestStart? fits (c :: rest) with
    | some n =>
      change ((c :: rest).take n) ++
        if everywhere then replaceFrom everywhere fits change (n - 1) rest
        else (c :: rest).drop n
    | none => c :: replaceFrom everywhere fits change 0 rest

/-- A text with what a pattern finds in an extent changed. At the start and at the end it may find
nothing at all. -/
def replaceIn (extent : Extent) (fits : Text → Bool) (change : Text → Text) (t : Text) : Text :=
  let here : List Text := if fits [] then [[]] else []
  match extent with
  | .once => replaceFrom false fits change 0 t
  | .everywhere => replaceFrom true fits change 0 t
  | .atStart =>
    match longestStart? fits t, here with
    | some n, _ => change (t.take n) ++ t.drop n
    | none, [] => t
    | none, _ => change [] ++ t
  | .atEnd =>
    match (List.range t.length).find? fun n => fits (t.drop n), here with
    | some n, _ => t.take n ++ change (t.drop n)
    | none, [] => t
    | none, _ => t ++ change []

/-- A text with its first letter, or all its letters, in capitals or in small letters, as far as
they fit a pattern. -/
def recase (capital all : Bool) (fits : Text → Bool) (t : Text) : Text :=
  let change (c : Char) : Char :=
    if !fits [c] then c else if capital then c.toUpper else c.toLower
  if all then t.map change
  else match t with
    | c :: rest => change c :: rest
    | [] => []

/-- A text with characters that do not show, between quotes behind a dollar sign; there is none for
other texts. -/
def quotedBehindDollar? (t : Text) : Option Text :=
  let shown (c : Char) : Text :=
    let table : List (Char × Text) := [('\n', "\\n"), ('\t', "\\t"), ('\r', "\\r"),
      ('\x07', "\\a"), ('\x08', "\\b"), ('\x0b', "\\v"), ('\x0c', "\\f"), ('\x1b', "\\E"),
      ('\x27', "\\'"), ('\\', "\\\\")]
    (table.lookup c).getD [c]
  if t.any fun c => c.toNat < 0x20 || c.toNat = 0x7F then
    some ('$' :: '\x27' :: t.flatMap shown ++ ['\x27'])
  else none

/-- A text between quotes so that a script reads it as one word. -/
def quotedAlways (t : Text) : Text :=
  (quotedBehindDollar? t).getD
    ('\x27' :: t.flatMap (fun c => if c = '\x27' then "'\\''" else [c]) ++ ['\x27'])

/-- A text quoted so that a script reads it as one word: each special character with a backslash
before it, or, if there are some that do not show, between quotes behind a dollar sign. -/
def quotedForScripts (t : Text) : Text :=
  let isPlain (c : Char) : Bool :=
    c.isAlphanum || 0x80 ≤ c.toNat || "_-./:=@%+,".toList.contains c
  if t.isEmpty then "''"
  else if let some quoted := quotedBehindDollar? t then quoted
  else t.flatMap fun c => if isPlain c then [c] else ['\\', c]

/-- A text between single quotes; such quotes in it stand between double ones. -/
def singleQuoted (t : Text) : Text :=
  match t.splitOn '\x27' with
  | [] => "''"
  | first :: rest =>
    let quote (t : Text) : Text := '\x27' :: t ++ ['\x27']
    let close (count : Nat) : Text :=
      if count = 0 then [] else '\x22' :: List.replicate count '\x27' ++ ['\x22']
    let (out, waiting) := rest.foldl (fun (out, waiting) part =>
      if part.isEmpty then (out, waiting + 1)
      else (out ++ close (waiting + 1) ++ quote part, 0)) (quote first, 0)
    out ++ close (if waiting = 0 then 0 else waiting)

example : slice (-2) none "abc".toList = "bc".toList ∧
    replaceIn .everywhere (Wildcard.accepts "b*c".toList) (fun _ => ['X']) "abbcb".toList =
      "aXb".toList := by
  decide +kernel

end Agenda.Shell
