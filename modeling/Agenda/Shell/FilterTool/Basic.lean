import Agenda.Shell.Session

/-!
# Filters as tools

The files that a filter reads one after the other, and what it prints on the way. What was found out
about a file is printed before the next file is opened, so that output and complaints come in the
order of the operands.

What a filter is on a command line: the options that it knows, and what it does with them and with
its operands. A wrong call is not carried out but told of.
-/

namespace Agenda.Shell

/-! ### Supplies -/

/-- What a filter gets for an operand: raw text under a name, or a reason why there is none. -/
inductive Supply
  | text (name t : Text)
  | refused (path : Text) (reason : Disk.Reason)

/-- How a filter goes through its supplies, with what it knows on the way. -/
structure Passing (σ : Type) where
  start : σ
  /-- What is printed for raw text under a name. -/
  step : σ → (name t : Text) → σ × Text
  /-- What is printed before and after the complaint about a directory. -/
  refuse : σ → (path : Text) → σ × Text × Text := fun state _ => (state, [], [])
  /-- What is printed in the end. -/
  finish : σ → Text := fun _ => []
  /-- Whether all complaints come before anything is printed. -/
  late : Bool := false

namespace Passing

/-- A filter whose output for some text starts with its output for the start of that text, as long
as that ends where a file does. -/
def flowing (filter : Text → Text) : Passing (Text × Nat) where
  start := ([], 0)
  step := fun (before, printed) _ t =>
    let all := before ++ t
    let out := filter all
    ((all, out.length), out.drop printed)

/-- A filter that does the same with every file, and prints nothing before it has seen them all. -/
def each (filter : Text → Text) : Passing Unit where
  start := ()
  step := fun _ _ t => ((), filter t)
  late := true

end Passing

/-- How a filter ends that could not read all of its source, or was called the wrong way. -/
def badSource (tool : Text) : Nat :=
  if [("sort" : Text), "sed", "grep", "egrep", "fgrep", "ls", "cmp", "diff", "expr", "awk"].contains
    tool then 2 else 1

namespace Session

/-- How a tool complains about a file that it cannot read. -/
def unreadable (tool path : Text) (reason : Disk.Reason) : Text :=
  let isAmong (tools : List Text) : Bool := tools.contains tool
  let words : Text :=
    if reason = .isDirectory then
      if isAmong ["head", "tail", "uniq"] then
        "error reading " ++ FileTool.shown path ++ ": " ++ reason.words
      else if isAmong ["sort"] then "read failed: " ++ FileTool.named path ++ ": " ++ reason.words
      else if isAmong ["tac"] then FileTool.named path ++ ": read error: Invalid argument"
      else if isAmong ["join", "base64", "base32", "basenc", "shuf"] then
        "read error: " ++ reason.words
      else if isAmong ["tsort"] then FileTool.named path ++ ": read error: " ++ reason.words
      else if isAmong ["fmt"] then "read error"
      else FileTool.named path ++ ": " ++ reason.words
    else if isAmong ["head", "tail", "fmt", "split", "csplit"] then
      "cannot open " ++ FileTool.shown path ++ " for reading: " ++ reason.words
    else if isAmong ["tac"] then
      "failed to open " ++ FileTool.shown path ++ " for reading: " ++ reason.words
    else if isAmong ["sort"] then "cannot read: " ++ FileTool.named path ++ ": " ++ reason.words
    else if isAmong ["sed"] then "can't read " ++ path ++ ": " ++ reason.words
    else if isAmong ["rev"] then "cannot open " ++ path ++ ": " ++ reason.words
    else if isAmong ["grep", "egrep", "fgrep", "cmp", "diff"] then path ++ ": " ++ reason.words
    else FileTool.named path ++ ": " ++ reason.words
  tool ++ ": " ++ words

/-- Writes raw text to the file at a path, behind what is in it if that is asked for. -/
def writeTo (session : Session) (path t : Text) (append : Bool) : Except Disk.Reason Session :=
  match session.leadToFile? 9 path append, session.disk.findWritable session.here path with
  | some led, _ => .ok { led.print 9 t with channels := session.channels }
  | none, .error reason => .error reason
  | none, .ok _ => .error .missing

def supply (session : Session) (operand : Text) : Session × Supply :=
  let text (t : Text) : Supply := .text (raw operand) t
  if operand = "-".toList ∨ operand = "/dev/stdin".toList then
    ({ session with input := .empty }, text (rawOf session.input))
  else if operand = nullPath then (session, text [])
  else if operand = "/dev/zero".toList then (session, text endless)
  else match session.disk.read session.here operand with
    | .ok bytes => (session, text (rawOf bytes))
    | .error refusal => (session, .refused operand refusal.reason)

/-- What a filter gets for its operands. -/
def suppliesOf (session : Session) : List Text → Session × List Supply
  | [] => (session, [])
  | operand :: rest =>
    let (session, supply) := session.supply operand
    let (session, others) := session.suppliesOf rest
    (session, supply :: others)

/-- What a filter gets for its operands, or its input without a name if there are none. -/
def supplies (session : Session) (operands : List Text) : Session × List Supply :=
  if operands.isEmpty then ({ session with input := .empty }, [.text [] (rawOf session.input)])
  else session.suppliesOf operands

/-- What a tool reads: the files of its operands with their names, or its input without a name if
there are none; and whether all could be read. -/
def sources (session : Session) (tool : Text) (operands : List Text) :
    Session × List (Text × Text) × Bool :=
  let (session, found) := session.supplies operands
  found.foldl (fun (session, files, well) supply =>
    match supply with
    | .text name t => (session, files ++ [(name, t)], well)
    | .refused path reason => (session.complains (unreadable tool path reason), files, false))
    (session, [], true)

/-- What a tool reads as a whole, and whether all could be read. -/
def source (session : Session) (tool : Text) (operands : List Text) : Session × Text × Bool :=
  let (session, files, well) := session.sources tool operands
  (session, files.flatMap (·.2), well)

/-- Goes through some operands and prints on the way. -/
def passes {σ : Type} (session : Session) (tool : Text) (operands : List Text)
    (passing : Passing σ) : Session :=
  let (session, found) := session.supplies operands
  let (session, state, kept, well) := found.foldl (fun (session, state, kept, well) supply =>
    match supply with
    | .text name t =>
      let (state, out) := passing.step state name t
      if passing.late then (session, state, kept ++ [out], well)
      else (session.print 1 out, state, kept, well)
    | .refused path reason =>
      let (state, before, after) :=
        if reason = .isDirectory then passing.refuse state (raw path) else (state, [], [])
      (((session.print 1 before).complains (unreadable tool path reason)).print 1 after, state,
        kept, false)) (session, passing.start, [], true)
  (session.print 1 (kept.flatten ++ passing.finish state)).ended
    (if well then 0 else badSource tool)

/-- Says that a tool was called the wrong way. -/
def misused (session : Session) (tool : Text) (misuse : Misuse) (status : Nat) : Session :=
  let session := if misuse.words.isEmpty then session
    else session.complains (tool ++ ": " ++ misuse.words)
  let session := misuse.others.foldl complains session
  let start : Text := if [("diff" : Text), "cmp"].contains tool then tool ++ ": " else []
  let session :=
    if !misuse.hints then session
    else
      let session := if [("grep" : Text), "egrep", "fgrep"].contains tool then
          session.complains "Usage: grep [OPTION]... PATTERNS [FILE]..."
        else session
      session.complains (start ++ "Try '" ++ tool ++ " --help' for more information.")
  session.ended status

end Session

/-! ### Filters -/

/-- A filter: the options that it knows, and what it does with its options and operands. -/
structure FilterTool where
  known : Known
  run : Session → Options → List Text → Except Misuse Session

namespace FilterTool

/-- A filter that goes through its operands. -/
def passing {σ : Type} (name : Text) (known : Known)
    (passing : Options → Except Misuse (Passing σ)) : Text × FilterTool :=
  (name, ⟨known, fun session options operands => do
    return session.passes name operands (← passing options)⟩)

def atMostOne : List Text → Except Misuse (List Text)
  | _ :: extra :: _ => .error (.excessOperand extra)
  | operands => .ok operands

def twoOf : List Text → Except Misuse (Text × Text)
  | [] => .error (.fewOperands none)
  | [first] => .error (.fewOperands (some first))
  | [first, second] => .ok (first, second)
  | _ :: _ :: extra :: _ => .error (.excessOperand extra)

def someOf (operands : List Text) : Except Misuse (List Text) :=
  if operands.isEmpty then .error (.fewOperands none) else .ok operands

end FilterTool

namespace Session

/-- The characters that raw text writes, or the text itself if it writes none. -/
def charactersOf (t : Text) : Text := (Text.ofBytes? (bytesOf t)).getD t

def writeFile (session : Session) (tool path t : Text) (append : Bool) : Session :=
  match session.writeTo path t append with
  | .ok session => session
  | .error reason =>
    session.fails (tool ++ ": " ++ FileTool.named path ++ ": " ++ reason.words) (badSource tool)

end Session

end Agenda.Shell
