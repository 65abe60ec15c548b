import Agenda.Shell.Filter.Copy
import Agenda.Shell.Filter.Lines
import Agenda.Shell.Filter.Repeats
import Agenda.Shell.Filter.Search
import Agenda.Shell.FilterTool.Basic

/-!
# Tools for lines

The tools that print files as they are, with numbers, from their beginnings or ends, backwards, or
without lines that come again; and the one that counts.

What `grep` does with its patterns and files: it prints the lines in which one of the patterns is
found, or tells whether there are such lines.
-/

/-! ## Tools for lines -/

namespace Agenda.Shell.FilterTool

open Agenda.Shell.Filter

/-- The options of the tools that print the beginnings or ends of files. -/
def excerptKnown : Known where
  plain := "qvz"
  valued := "nc"
  numbered := true
  words := [("lines", 'n'), ("bytes", 'c'), ("quiet", 'q'), ("silent", 'q'), ("verbose", 'v'),
    ("zero-terminated", 'z')]

/-- Prints the beginnings of files. What is behind that in the input is left there if it is a file,
or if bytes are counted. -/
def head : FilterTool where
  known := excerptKnown
  run := fun session options operands => do
    let excerpt ← Excerpt.ofOptions Extent.ofFront options operands.length
    let after := session.passes "head" operands excerpt.passing
    let own := operands.isEmpty || operands.contains ['-']
    if own && (session.fromFile || excerpt.ofBytes) then
      return { after with input := bytesOf (excerpt.cut (rawOf session.input)).2 }
    else return after

/-- The options and files of a tool that may get an operand of the old form, with a plus. -/
def withOldStart (options : Options) (operands : List Text) : Options × List Text :=
  match options, operands with
  | [], ('+' :: first) :: files =>
    let digits := first.takeWhile Char.isDigit
    match first.drop digits.length with
    | [] => if digits.isEmpty then (options, operands) else ([('n', '+' :: digits)], files)
    | ['c'] => ([('c', '+' :: digits)], files)
    | ['l'] => ([('n', '+' :: digits)], files)
    | _ => (options, operands)
  | _, _ => (options, operands)

/-- Prints the ends of files. -/
def tail : FilterTool where
  known := { excerptKnown with
    plain := "qvzfF"
    numberLetter := '#'
    words := ("follow", 'f') :: excerptKnown.words }
  run := fun session options operands => do
    match options.value? '#' with
    | some (c :: _) =>
      if 1 < operands.length then
        throw (.other [("option used in invalid context -- " : Text) ++ [c]] false)
    | _ => pure ()
    let options := options.map fun (letter, value) => (if letter = '#' then 'n' else letter, value)
    let (options, operands) :=
      if operands.length ≤ 1 then withOldStart options operands else (options, operands)
    let excerpt ← Excerpt.ofOptions Extent.ofBack options operands.length
    return session.passes "tail" operands excerpt.passing

/-- The size of what an operand leads to, if it is known before it is read. -/
def sizeOf? (session : Session) (operand : Text) : Option Nat :=
  if operand.isEmpty ∨ operand = ['-'] then
    if session.fromFile then some session.input.size else none
  else match FileTool.at? session.disk session.here operand with
    | some (_, .file file) => some (FileTool.sizeOf (.file file))
    | some _ => none
    | none => some 0

/-- Counts lines, words and bytes. -/
def tally : FilterTool where
  known := { plain := "lwcmL", words := [("lines", 'l'), ("words", 'w'), ("bytes", 'c'),
    ("chars", 'm'), ("max-line-length", 'L')] }
  run := fun session options operands => do
    let letters := Tally.letters options
    let sizes := if operands.isEmpty then [sizeOf? session []] else operands.map (sizeOf? session)
    return session.passes "wc" operands
      (Tally.passing letters (Tally.widthFor letters sizes) (operands.length > 1))

/-- Leaves out lines that come again. -/
def repeats : FilterTool where
  known := { plain := "cduizD", valued := "fsw", numbered := true, words := [
    ("count", 'c'), ("repeated", 'd'), ("all-repeated", 'A'), ("unique", 'u'),
    ("ignore-case", 'i'), ("skip-fields", 'f'), ("skip-chars", 's'), ("check-chars", 'w'),
    ("group", 'G'), ("zero-terminated", 'z')] }
  run := fun session options operands => do
    match operands with
    | _ :: _ :: extra :: _ => .error (.excessOperand extra)
    | operands =>
      let repeats ← Repeats.ofOptions options
      match operands with
      | [source, goal] =>
        match session.source "uniq" [source] with
        | (session, t, true) => return (session.ended 0).writeFile "uniq" goal (repeats.of t) false
        | (session, _, false) => return session.ended 1
      | operands => return session.passes "uniq" operands (Passing.each repeats.of)

/-- Copies what is read to files and on. -/
def share : FilterTool where
  known := { plain := "aip", words := [("append", 'a'), ("ignore-interrupts", 'i'),
    ("output-error", 'p')] }
  run := fun session options operands => do
    let (session, t, _) := session.source "tee" []
    return operands.foldl (fun session path => session.writeFile "tee" path t (options.has 'a'))
      ((session.print 1 t).ended 0)

def lines : List (Text × FilterTool) := [
  passing "cat" { plain := "nbsETAuvet", words := [("number", 'n'), ("number-nonblank", 'b'),
      ("show-all", 'A'), ("show-ends", 'E'), ("show-nonprinting", 'v'), ("show-tabs", 'T'),
      ("squeeze-blank", 's')] } fun options =>
    .ok (Passing.flowing (Copying.ofOptions options).copy),
  ("head", head), ("tail", tail), ("wc", tally), ("uniq", repeats), ("tee", share),
  passing "nl" { plain := "p", valued := "bdfhilnsvw", words := [("body-numbering", 'b'),
      ("section-delimiter", 'd'), ("footer-numbering", 'f'), ("header-numbering", 'h'),
      ("line-increment", 'i'), ("join-blank-lines", 'l'), ("number-format", 'n'),
      ("no-renumber", 'p'), ("number-separator", 's'), ("starting-line-number", 'v'),
      ("number-width", 'w')] } fun options => do
    return (← Numbering.ofOptions options).passing,
  passing "tac" { plain := "br", valued := "s", words := [("before", 'b'), ("regex", 'r'),
      ("separator", 's')] } fun options => do
    return Passing.each (← Parting.ofOptions options).turned,
  passing "rev" {} fun _ => .ok (Passing.each mirrored)]

end Agenda.Shell.FilterTool

/-! ## Searching as a tool -/

namespace Agenda.Shell

namespace Session

open Agenda.Shell.Filter

/-- The files that are searched for some operands: with the files in directories, if these are to be
searched, too. -/
def searchedFiles (session : Session) (options : Options) (operands : List Text) : List Text :=
  if !(options.has 'r' || options.has 'R') then operands
  else (if operands.isEmpty then [['.']] else operands).flatMap fun path =>
    match FileTool.at? session.disk session.here path with
    | some (place, .directory _) =>
      let start := if operands.isEmpty then [] else [path]
      (FileTool.treeAt session.disk place).filterMap fun (p, entry) =>
        match entry with
        | .file _ => some (Text.join "/" (start ++ p.drop place.length))
        | _ => none
    | _ => [path]

/-- The patterns in a file, one on each line. -/
def patternsIn (session : Session) (path : Text) : Except Text (List Text) :=
  if path = ['-'] then .ok (linesOf (charactersOf (rawOf session.input)))
  else match session.disk.read session.here path with
    | .ok contents => .ok (linesOf (charactersOf (rawOf contents)))
    | .error refusal => .error (path ++ ": " ++ refusal.reason.words)

def searchLines (session : Session) (options : Options) (operands : List Text) :
    Except Misuse Session := do
  let listed ← (options.values 'f').mapM fun path =>
    (session.patternsIn path).mapError fun words => .other [words] false
  let (patterns, files) := if !options.has 'e' && !options.has 'f' then
      (operands.take 1, operands.tail)
    else (options.values 'e' ++ listed.flatten, operands)
  let named := files.length > 1 || options.has 'r' || options.has 'R'
  if patterns.isEmpty ∧ !options.has 'f' then throw (Misuse.other [] true)
  else
    let (read, found, well) := session.sources "grep" (session.searchedFiles options files)
    let quiet := options.has 's'
    let read := if quiet then { session with input := read.input } else read
    let characters := found.mapM fun (name, t) => (Text.ofBytes? (bytesOf t)).map (name, ·)
    let (found, patterns, written) : List (Text × Text) × List Text × (Text → Text) :=
      match characters with
      | some characters => (characters, patterns, raw)
      | none => (found, patterns.map raw, id)
    match Filter.Search.ofOptions options patterns with
    | .error words => refuse words
    | .ok search =>
      let good := found.any fun (_, t) => search.count t != 0
      let out := if options.has 'q' then [] else search.printedFor options named found
      return (read.print 1 (written (Filter.printed out))).ended
        (if !well && !(options.has 'q' && good) then 2 else if good then 0 else 1)

end Session

namespace FilterTool

def searchKnown : Known where
  plain := "ivcnqslLowxEFGHhyarRPIU"
  valued := "efmABC"
  numbered := true
  numberLetter := 'C'
  words := [("count", 'c'), ("ignore-case", 'i'), ("invert-match", 'v'), ("line-number", 'n'),
    ("quiet", 'q'), ("silent", 'q'), ("only-matching", 'o'), ("word-regexp", 'w'),
    ("line-regexp", 'x'), ("extended-regexp", 'E'), ("fixed-strings", 'F'), ("regexp", 'e'),
    ("file", 'f'), ("max-count", 'm'), ("files-with-matches", 'l'), ("files-without-match", 'L'),
    ("no-filename", 'h'), ("with-filename", 'H'), ("no-messages", 's'), ("recursive", 'r'),
    ("basic-regexp", 'G'), ("perl-regexp", 'P'), ("text", 'a'), ("context", 'C'),
    ("after-context", 'A'), ("before-context", 'B'), ("color", '='), ("colour", '=')]

def searches : List (Text × FilterTool) := [
  ("grep", ⟨searchKnown, Session.searchLines⟩),
  ("egrep", ⟨searchKnown, fun session options operands =>
    session.searchLines (('E', []) :: options) operands⟩),
  ("fgrep", ⟨searchKnown, fun session options operands =>
    session.searchLines (('F', []) :: options) operands⟩)]

end FilterTool

end Agenda.Shell
