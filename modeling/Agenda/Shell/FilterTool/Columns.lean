import Agenda.Shell.Filter.Columns
import Agenda.Shell.Filter.Exchange
import Agenda.Shell.Filter.Filling
import Agenda.Shell.Filter.Join
import Agenda.Shell.Filter.Widths
import Agenda.Shell.FilterTool.Basic

/-!
# Tools for columns

The tools that take columns out of lines or put them beside each other, those that line up or join
the lines of two files, and those that change the width of lines or the characters in them.
-/

namespace Agenda.Shell

/-- Prints what comes out of two files, and ends well if there was nothing to complain about. -/
def Session.tells (session : Session) (tool : Text) (mark : Char) (told : List Filter.Told) :
    Session :=
  told.foldl (fun session item =>
    match item with
    | .line line => session.print 1 (line ++ [mark])
    | .complaint words => session.fails (tool ++ ": " ++ words) 1) (session.ended 0)

namespace FilterTool

open Agenda.Shell.Filter

/-- Puts the lines of files beside each other. -/
def paste : FilterTool where
  known := { plain := "sz", valued := "d", words := [("serial", 's'), ("delimiters", 'd'),
    ("zero-terminated", 'z')] }
  run := fun session options operands => do
    let pasting ← Pasting.ofOptions options
    if pasting.serial then
      return session.passes "paste" operands
        { start := (), step := fun _ _ t => ((), pasting.joined t)
          refuse := fun _ _ => ((), [pasting.mark], []) }
    else
      let (read, found) := session.supplies operands
      let refused := found.findSome? fun
        | .refused _ .isDirectory | .text _ _ => none
        | .refused path reason => some (path, reason)
      match refused with
      | some (path, reason) => return session.fails (Session.unreadable "paste" path reason) 1
      | none =>
        let (read, files) := found.foldl (fun (session, files) supply =>
          match supply with
          | .text name t => (session, files ++ [(name, t)])
          | .refused path reason =>
            (session.fails (Session.unreadable "paste" path reason) 1, files ++ [(path, [])]))
          (read.ended 0, [])
        return read.print 1 (pasting.beside (pasting.columns files))

/-- The texts of two files, or what is said about the first one that cannot be read. -/
def twoTexts (session : Session) (tool : Text) (first second : Text) :
    Session × Option (Text × Text) :=
  match session.supply first with
  | (session, .refused path reason) =>
    (session.fails (Session.unreadable tool path reason) 1, none)
  | (session, .text _ s) =>
    match session.supply second with
    | (session, .refused path reason) =>
      (session.fails (Session.unreadable tool path reason) 1, none)
    | (session, .text _ t) => (session, some (s, t))

def lineUp : FilterTool where
  known := { plain := "123z", valued := "d", words := [("output-delimiter", 'd'),
    ("check-order", 'o'), ("nocheck-order", 'O'), ("total", 't'), ("zero-terminated", 'z')] }
  run := fun session options operands => do
    let (first, second) ← twoOf operands
    let lineup := Lineup.ofOptions options
    match twoTexts session "comm" first second with
    | (session, some (s, t)) => return session.tells "comm" lineup.mark (lineup.of s t)
    | (session, none) => return session

/-- Joins the lines of two files. -/
def join : FilterTool where
  known := { plain := "iz", valued := "12jtaveo", words := [("ignore-case", 'i'),
    ("zero-terminated", 'z'), ("header", 'H'), ("check-order", 'C'), ("nocheck-order", 'N')] }
  run := fun session options operands => do
    let joining ← Joining.ofOptions options
    let (first, second) ← (twoOf operands).mapError fun
      | .excessOperand extra => .other [("extra operand '" : Text) ++ extra ++ "'"] true
      | misuse => misuse
    if first = ['-'] ∧ second = ['-'] then
      refuse "both files cannot be standard input: No such file or directory"
    let names (file : Nat) : Text := if file = 1 then first else second
    match twoTexts session "join" first second with
    | (session, some (s, t)) =>
      return session.tells "join" joining.mark (joining.of (fun file => raw (names file)) s t)
    | (session, none) => return session

def exchange : FilterTool where
  known := { plain := "cCdst", leading := true, words := [("delete", 'd'),
    ("squeeze-repeats", 's'), ("complement", 'c'), ("truncate-set1", 't')] }
  run := fun session options operands => do
    let (exchange, warnings) ← Exchange.ofOptions options operands
    let session := warnings.foldl (fun session lines =>
      (lines.tail).foldl Session.complains (session.complains ("tr: " ++ lines.headD []))) session
    let (session, t, _) := session.source "tr" []
    return session.utters (exchange.of t)

/-- The options of the tools for tabs: numbers behind a dash are stops. -/
def stopsKnown (plain : Text) (words : List (Text × Char)) : Known where
  plain := plain
  valued := ['t']
  words := ("tabs", 't') :: words
  numbered := true
  numberLetter := 't'
  numberSigns := "0123456789,"

def columns : List (Text × FilterTool) := [
  passing "cut" { plain := "snz", valued := "dfcbo", words := [("delimiter", 'd'),
      ("fields", 'f'), ("characters", 'c'), ("bytes", 'b'), ("complement", 'C'),
      ("output-delimiter", 'o'), ("only-delimited", 's'), ("zero-terminated", 'z')] }
    fun options => do
      let picking ← Picking.ofOptions options
      return { start := (), step := fun _ _ t => ((), picking.of t) },
  ("paste", paste), ("comm", lineUp), ("join", join), ("tr", exchange),
  passing "fold" { plain := "bs", valued := "w", numbered := true, words := [("width", 'w'),
      ("bytes", 'b'), ("spaces", 's')] } fun options => do
    let folding ← Folding.ofOptions options
    return { start := (), step := fun _ _ t => ((), folding.of t) },
  passing "fmt" { plain := "cstu", valued := "pgw", numbered := true, words := [("width", 'w'),
      ("goal", 'g'), ("split-only", 's'), ("crown-margin", 'c'), ("tagged-paragraph", 't'),
      ("uniform-spacing", 'u'), ("prefix", 'p')] } fun options => do
    let filling ← Filling.ofOptions options
    return { start := (), step := fun _ _ t => ((), filling.of t) },
  passing "expand" (stopsKnown "i" [("initial", 'i')]) fun options => do
    let tabs ← TabStops.ofLists (options.values 't')
    return Passing.flowing (tabs.spaced (options.has 'i') 0 true),
  passing "unexpand" (stopsKnown "a" [("all", 'a'), ("first-only", 'f')]) fun options => do
    let tabs ← TabStops.ofLists (options.values 't')
    let all := (options.has 'a' || options.has 't') && !options.has 'f'
    return Passing.flowing (tabs.tabbed all {})]

end FilterTool

end Agenda.Shell
