import Agenda.Shell.Filter.Blocks
import Agenda.Shell.Filter.Dump
import Agenda.Shell.Filter.Split
import Agenda.Shell.FilterTool.Basic

/-!
# Tools for bytes and blocks

The tools that write bytes with letters or numbers, and the one that divides files.

How blocks get from one file to another one: where they come from, and what was in the file that
they are written to.
-/

/-! ## Tools for bytes -/

namespace Agenda.Shell

def Session.writesParts (session : Session) (names : Filter.PartNames) (verbose leavesOut : Bool)
    (parts : List Text) : Session :=
  let parts := if leavesOut then parts.filter (!·.isEmpty) else parts
  (parts.zipIdx.foldl (fun (session, going) (part, index) =>
    if !going then (session, going)
    else match names.name? index with
      | none => (session.fails "split: output file suffixes exhausted" 1, false)
      | some name =>
        let session := if verbose then
            session.print 1 ("creating file " ++ raw (FileTool.shown name) ++ "\n")
          else session
        match session.writeTo name part false with
        | .ok session => (session, true)
        | .error reason =>
          (session.fails ("split: " ++ FileTool.named name ++ ": " ++ reason.words) 1, false))
    (session.ended 0, true)).1

namespace FilterTool

open Agenda.Shell.Filter

/-- Writes bytes with letters, or reads them back. -/
def code (name : Text) (known : Known) (coding : Options → Except Misuse Coding) :
    Text × FilterTool :=
  let words : List (Text × Char) :=
    [("decode", 'd'), ("ignore-garbage", 'i'), ("wrap", 'w')]
  (name, ⟨{ known with plain := "di", valued := "w", words := words ++ known.words },
    fun session options operands => do
      let width ← Coding.widthOf options
      let operands ← atMostOne operands
      let coding ← coding options
      match session.source name operands with
      | (session, _, false) => return session.ended 1
      | (session, t, true) =>
        if options.has 'd' then
          let (bytes, well) := coding.decode (options.has 'i') t
          let session := session.print 1 bytes
          return if well then session.ended 0
            else session.fails (name ++ ": invalid input") 1
        else return session.utters (coding.encode width t)⟩)

def codingOf (options : Options) : Except Misuse Coding :=
  match (options.lastOf "6u3h1").bind Coding.ofLetter? with
  | some coding => .ok coding
  | none => refuseWithHint "missing encoding type"

/-- Shows bytes in numbers. -/
def dump : FilterTool where
  known := { plain := "abcdhiIlLosxXODBHv", valued := "AtNj", trailing := "w", words := [
    ("address-radix", 'A'), ("skip-bytes", 'j'), ("read-bytes", 'N'), ("format", 't'),
    ("output-duplicates", 'v'), ("width", 'w'), ("endian", 'E')] }
  run := fun session options operands => do
    let (dump, badWidth) ← Dump.ofOptions options
    let isNew := ['A', 'j', 'N', 't', 'v', 'w'].any options.has
    let (place?, operands) : Option Nat × List Text :=
      if isNew then (none, operands)
      else match operands with
      | [one] =>
        match if one.head? = some '+' then Dump.oldPlace? one else none with
        | some place => (some place, [])
        | none => (none, operands)
      | [path, second] =>
        match Dump.oldPlace? second with
        | some place => (some place, [path])
        | none => (none, operands)
      | _ => (none, operands)
    let dump := match place? with
      | some place => { dump with skipped := place }
      | none => dump
    let session := match badWidth with
      | some width => session.complains ("od: warning: invalid width " ++ Text.ofNat width ++
          "; using " ++ Text.ofNat dump.rowSize ++ " instead")
      | none => session
    let (session, found) := session.supplies operands
    let (session, t, well, opened) := found.foldl (fun (session, t, well, opened) supply =>
      match supply with
      | .text _ more => (session, t ++ more, well, true)
      | .refused path reason =>
        (session.complains (Session.unreadable "od" path reason), t, false,
          opened || reason == .isDirectory)) (session, [], true, false)
    if !opened then return session.ended 1
    match dump.of? t with
    | some out => return (session.print 1 out).ended (if well then 0 else 1)
    | none => return session.fails "od: cannot skip past end of combined input" 1

/-- Divides a text into files. -/
def split : FilterTool where
  known := { plain := "deux", valued := "lbaCnt", numbered := true, numberLetter := '#', words := [
    ("lines", 'l'), ("bytes", 'b'), ("line-bytes", 'C'), ("number", 'n'), ("suffix-length", 'a'),
    ("additional-suffix", 'X'), ("numeric-suffixes", 'D'), ("hex-suffixes", 'Y'),
    ("elide-empty-files", 'e'), ("separator", 't'), ("verbose", 'V'), ("unbuffered", 'u')] }
  run := fun session options operands => do
    let mark ← (options.values 't').mapM fun value =>
      match raw value with
      | [c] => pure c
      | ['\\', '0'] => pure '\x00'
      | [] => refuse "empty record separator"
      | _ => refuse ("multi-character separator " ++ Misuse.marked value)
    let division ← Division.ofOptions options
    let names ← PartNames.ofOptions options division (operands.getD 1 ['x'])
    match operands.drop 2 with
    | extra :: _ => throw (Misuse.excessOperand extra)
    | [] =>
      match session.source "split" (operands.take 1) with
      | (session, _, false) => return session.ended 1
      | (session, t, true) =>
        let parts := division.parts (mark.getLastD '\n') t
        match division with
        | .inShares _ (some wanted) _ => return session.utters (parts.getD (wanted - 1) [])
        | .inShares _ _ _ =>
          return session.writesParts names (options.has 'V') (options.has 'e') parts
        | _ => return session.writesParts names (options.has 'V') false parts

def bytes : List (Text × FilterTool) := [
  code "base64" {} fun _ => .ok Coding.sixBits,
  code "base32" {} fun _ => .ok Coding.fiveBits,
  code "basenc" { words := [("base64", '6'), ("base64url", 'u'), ("base32", '3'),
    ("base32hex", 'h'), ("base16", '1')] } codingOf,
  ("od", dump), ("split", split)]

end FilterTool

end Agenda.Shell

/-! ## The tool for blocks -/

namespace Agenda.Shell

open Agenda.Shell.Filter

namespace Session

/-- What a file holds after a text was written into it from a point on. -/
def overwritten (copy : BlockCopy) (old t : Text) : Text :=
  let kept := copy.converts "notrunc"
  if copy.appends then (if kept then old else []) ++ t
  else
    let front := old.take copy.start
    front ++ List.replicate (copy.start - front.length) '\x00' ++ t ++
      if kept then old.drop (copy.start + t.length) else []

def writesBlocks (session : Session) (copy : BlockCopy) (t : Text) : Except Misuse Session :=
  match copy.output with
  | none => .ok (session.print 1 t)
  | some path =>
    let failed (reason : Disk.Reason) : Except Misuse Session :=
      refuse ("failed to open " ++ FileTool.shown path ++ ": " ++ reason.words)
    let old? := (session.disk.read session.here path).toOption
    if old?.isSome && copy.converts "excl" then failed .occupied
    else if old?.isNone && copy.converts "nocreat" then failed .missing
    else match session.writeTo path (overwritten copy ((old?.map rawOf).getD []) t) false with
      | .ok session => .ok session
      | .error reason => failed reason

def copiesBlocks (session : Session) (copy : BlockCopy) : Except Misuse Session := do
  let name := copy.input.getD "standard input".toList
  let (session, t, directory) ← match copy.input with
    | none => pure (session, rawOf session.input, false)
    | some path =>
      match session.supply path with
      | (session, .text _ t) => pure (session, t, false)
      | (session, .refused _ .isDirectory) => pure (session, [], true)
      | (_, .refused path reason) =>
        refuse ("failed to open " ++ FileTool.shown path ++ ": " ++ reason.words)
  let found := copy.read t
  let session := if copy.input.isNone then
      { session with input := bytesOf (t.drop (copy.skipped + found.flatten.length)) }
    else session
  let written := copy.write found
  let session ← session.writesBlocks copy written.flatten
  let session := if directory then
      session.complains ("dd: error reading " ++ FileTool.shown name ++ ": " ++
        Disk.Reason.isDirectory.words)
    else if t.length < copy.skipped then
      session.complains ("dd: " ++ FileTool.named name ++ ": cannot skip to specified offset")
    else session
  return ((copy.report found written).foldl complains session).ended (if directory then 1 else 0)

end Session

namespace FilterTool

def blocks : List (Text × FilterTool) := [
  ("dd", ⟨{ leading := true }, fun session _ operands => do
    session.copiesBlocks (← BlockCopy.ofOperands operands)⟩)]

end FilterTool

end Agenda.Shell
