import Agenda.Shell.Escape
import Agenda.Shell.FileTool.Place
import Agenda.Shell.Numeral
import Agenda.Shell.Options
import Agenda.Text.Substitute

/-!
# Commands fed with what is read

What `xargs` calls: a command with the items that it reads behind its words, as many at a time as is
asked for, or once for every line with the line in the place of a mark.
-/

namespace Agenda.Shell

/-- How a command is fed. -/
structure Feed where
  command : List Text := []
  /-- The mark that each line takes the place of. -/
  mark : Option Text := none
  /-- How many items, lines and bytes there are in a call at most. -/
  most : Option Nat := none
  lines : Option Nat := none
  size : Option Nat := none
  /-- What parts items, if not white space. -/
  separator : Option Char := none
  /-- The item that nothing is read behind. -/
  ending : Option Text := none
  /-- The file that is read. -/
  source : Option Text := none
  /-- Whether calls are shown, and whether there is none without items. -/
  shows : Bool := false
  spares : Bool := false

namespace Feed

/-- What is done for what was read. -/
inductive Step
  | call (command : List Text)
  | fail (words : Text)

def numberOf (letter : Char) (least : Nat) (value : Text) : Except Misuse Nat :=
  let wrong (words : Text) : Except Misuse Nat :=
    .error (.other [words ++ " for -" ++ letter :: " option".toList] true)
  match numeral? value with
  | some n =>
    if n < least then
      .error (.other ["value " ++ value ++ " for -" ++ letter :: " option should be >= ".toList ++
        Text.ofNat least] true)
    else .ok n.toNat
  | none => wrong ("invalid number \x22" ++ value ++ "\x22")

/-- What is said about an option that makes an earlier one void. -/
def conflict (old new : Text) : Text :=
  "warning: options " ++ old ++ " and " ++ new ++ " are mutually exclusive, ignoring previous " ++
    old ++ " value"

/-- The warnings of a new option about those before it. -/
def conflicts (feed : Feed) (letter : Char) : List Text :=
  let new : Text := if letter = 'I' then "--replace/-I/-i"
    else if letter = 'L' then "-L" else "--max-args/-n"
  (if feed.lines.isSome && letter != 'L' then [conflict "--max-lines" new] else []) ++
    (if feed.most.isSome && letter != 'n' then [conflict "--max-args" new] else []) ++
      if feed.mark.isSome && letter != 'I' then [conflict "--replace" new] else []

/-- The character between items that a word writes. -/
def separatorOf (word : Text) : Except Misuse Char :=
  match word, (Escapes.toolFormat.replace (raw word)).1 with
  | [c], _ => .ok c
  | '\\' :: _, [c] => .ok c
  | _, _ => .error (.other ["Invalid input delimiter specification " ++ word ++ ": the delimiter " ++
      "must be either a single character or an escape sequence starting with \\."] false)

/-- A feed with one more option, and what is said about that. -/
def withOption (feed : Feed) (letter : Char) (value : Text) : Except Misuse (Feed × List Text) := do
  let still (feed : Feed) : Except Misuse (Feed × List Text) := .ok (feed, [])
  match letter with
  | 'I' | 'i' =>
    let mark := if value.isEmpty then ['\x7b', '\x7d'] else value
    return ({ feed with mark := some mark, most := none, lines := none }, feed.conflicts 'I')
  | 'L' | 'l' =>
    let count ← if value.isEmpty then pure 1 else numberOf 'L' 1 value
    return ({ feed with lines := some count, most := none, mark := none }, feed.conflicts 'L')
  | 'n' =>
    let count ← numberOf 'n' 1 value
    if count = 1 ∧ feed.mark.isSome then return (feed, [])
    return ({ feed with most := some count, lines := none, mark := none }, feed.conflicts 'n')
  | 's' => return ({ feed with size := some (← numberOf 's' 1 value) }, [])
  | 'P' => (numberOf 'P' 0 value).map fun _ => (feed, [])
  | 'd' => return ({ feed with separator := some (← separatorOf value) }, [])
  | '0' => still { feed with separator := some '\x00' }
  | 'E' | 'e' => still { feed with ending := if value.isEmpty then none else some value }
  | 'a' => still { feed with source := some value }
  | 't' => still { feed with shows := true }
  | 'r' => still { feed with spares := true }
  | _ => still feed

/-- The options. -/
def known : Known where
  plain := "0rtxpo"
  valued := "adEILnPs"
  trailing := "eil"
  leading := true
  words := [("null", '0'), ("arg-file", 'a'), ("delimiter", 'd'), ("eof", 'e'), ("replace", 'i'),
    ("max-lines", 'l'), ("max-args", 'n'), ("interactive", 'p'), ("no-run-if-empty", 'r'),
    ("max-chars", 's'), ("verbose", 't'), ("exit", 'x'), ("max-procs", 'P'), ("open-tty", 'o')]

/-- What some arguments ask for, and what is said about them. -/
def read (arguments : List Text) : Except Misuse (Feed × List Text) := do
  let (options, command) ← known.split arguments
  let command := if command.isEmpty then ["echo".toList] else command
  options.foldlM (fun (feed, said) (letter, value) => do
    let (feed, more) ← feed.withOption letter value
    return (feed, said ++ more)) ({ command }, [])

/-- The items of raw text that white space parts, each with whether its line ends behind it; and the
quotation mark that has no partner. In a quotation and behind a backslash, white space is a part of
the item, and so it is inside of a line if lines are taken as a `whole`. `word` is what has been
read of an item, backwards. -/
def itemsFrom (whole : Bool) (quote : Option Char) (word : Option Text) :
    Text → List (Text × Bool) × Option Char
  | [] =>
    if quote.isSome then ([], quote) else ((word.map fun word => (word.reverse, false)).toList, none)
  | [c] =>
    let wordEnded (word : Option Text) (endsLine : Bool) : List (Text × Bool) :=
      (word.map fun word => (word.reverse, endsLine)).toList
    match quote with
    | some mark => if c = mark then (wordEnded word false, none) else ([], quote)
    | none =>
      if c = '\x27' ∨ c = '\x22' then ([], some c)
      else if c = '\n' then (wordEnded word true, none)
      else if isGap c ∧ (word.isNone ∨ !whole) then (wordEnded word false, none)
      else (wordEnded (some (c :: word.getD [])) false, none)
  | c :: d :: rest =>
    let goesOn (endsLine : Bool) : List (Text × Bool) × Option Char :=
      let (items, unmatched) := itemsFrom whole none none (d :: rest)
      ((word.map fun word => (word.reverse, endsLine)).toList ++ items, unmatched)
    match quote with
    | some mark =>
      if c = mark then itemsFrom whole none word (d :: rest)
      else if c = '\n' then ([], quote)
      else itemsFrom whole quote (some (c :: word.getD [])) (d :: rest)
    | none =>
      if c = '\\' then itemsFrom whole none (some (d :: word.getD [])) rest
      else if c = '\x27' ∨ c = '\x22' then
        itemsFrom whole (some c) (some (word.getD [])) (d :: rest)
      else if c = '\n' then goesOn true
      else if isGap c ∧ (word.isNone ∨ !whole) then goesOn false
      else itemsFrom whole none (some (c :: word.getD [])) (d :: rest)

/-- The items of raw text, and the quotation mark that has no partner. -/
def itemsOf (feed : Feed) (t : Text) : List (Text × Bool) × Option Char :=
  match feed.separator with
  | some mark =>
    let items := t.splitOn mark
    let items := if items.getLast? = some [] then items.dropLast else items
    (items.map fun item => (item, true), none)
  | none =>
    let (items, unmatched) := itemsFrom feed.mark.isSome none none t
    match feed.ending with
    | none => (items, unmatched)
    | some ending =>
      (items.takeWhile fun (item, _) => item != raw ending,
        if items.any fun (item, _) => item == raw ending then none else unmatched)

/-- The number of bytes that words take. -/
def sizeOf (words : List Text) : Nat :=
  words.foldl (fun size word => size + ((raw word).length + 1)) 0

/-- Items in calls: those of full calls, and those of a last one that is not full. `room` is the
number of bytes for items, and `batch` and `lines` say what the call at hand has so far. -/
def batches (feed : Feed) (room : Option Nat) (batch : List Text) (lines : Nat) :
    List (Text × Bool) → List (List Text) × List Text
  | [] => ([], batch)
  | (item, endsLine) :: rest =>
    let isFull := room.any fun room => room < sizeOf (batch ++ [item])
    let before := if isFull then [batch] else []
    let batch := if isFull then [item] else batch ++ [item]
    let lines := (if isFull then 0 else lines) + endsLine.toNat
    let ends := feed.most.any (· ≤ batch.length) || feed.lines.any (· ≤ lines)
    if ends then
      let (full, last) := feed.batches room [] 0 rest
      (before ++ batch :: full, last)
    else
      let (full, last) := feed.batches room batch lines rest
      (before ++ full, last)

/-- What is done for raw text that was read. -/
def steps (feed : Feed) (t : Text) : List Step :=
  let (items, unmatched) := feed.itemsOf t
  let items := items.map fun (item, endsLine) =>
    ((Text.ofBytes? (bytesOf item)).getD item, endsLine)
  let fault : List Step := match unmatched with
    | some mark => [.fail ("unmatched " ++ (if mark = '\x27' then "single" else "double") ++
        " quote; by default quotes are special to xargs unless you use the -0 option")]
    | none => []
  match feed.mark with
  | some mark =>
    items.map (fun (item, _) => .call (feed.command.map (Text.replaceAll mark item))) ++ fault
  | none =>
    let room := feed.size.map fun size => size - sizeOf feed.command
    let (fitting, others) := items.span fun (item, _) => room.all (sizeOf [item] ≤ ·)
    let fault := if others.isEmpty then fault else [.fail "argument line too long"]
    let (full, last) := feed.batches room [] 0 fitting
    let calls (batch : List Text) : Step := .call (feed.command ++ batch)
    let isBare := items.isEmpty && unmatched.isNone && !feed.spares
    full.map calls ++ fault ++ if !last.isEmpty || isBare then [calls last] else []

def shown (command : List Text) : Text := Text.join " " (command.map FileTool.named)

end Feed

end Agenda.Shell
