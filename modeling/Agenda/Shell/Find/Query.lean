import Agenda.Shell.Find.Report
import Agenda.Shell.Wildcard

/-!
# Queries about files

What is asked of a file in a search, and what is done with it. A query is put to every file and
directory of a tree: its questions decide what is done with the file.
-/

namespace Agenda.Shell.Find

/-- A number that is asked for: more than that, less, or just so many. -/
structure Amount where
  order : Ordering
  count : Nat

/-- Whether a number is one that is asked for. -/
def Amount.accepts (amount : Amount) (n : Nat) : Bool := compare n amount.count == amount.order

/-- How a mode has to agree with some bits. -/
inductive Likeness
  | exact
  | all
  | any
deriving DecidableEq

def Likeness.holds (likeness : Likeness) (bits mode : Nat) : Bool :=
  match likeness with
  | exact => mode == bits
  | all => mode &&& bits == bits
  | any => bits == 0 || mode &&& bits != 0

/-- What is asked of a file. -/
inductive Question
  | name (fold : Bool) (pattern : Text)
  | wholePath (fold : Bool) (pattern : Text)
  /-- What a symbolic link leads to. -/
  | target (fold : Bool) (pattern : Text)
  | expression (fold : Bool) (e : Expression)
  | kind (letters : Text)
  /-- What it is if symbolic links are taken the other way. -/
  | otherKind (letters : Text)
  | empty
  | size (amount : Amount) (unit : Nat)
  | names (amount : Amount)
  | owner (amount : Amount)
  /-- The mode, for files and for directories. -/
  | mode (likeness : Likeness) (bits folderBits : Nat)
  /-- When it was written: before a moment, after it, or within a time behind it. -/
  | written (order : Ordering) (moment span : Int)
  | same (place : Place)
  | executable
  | always (answer : Bool)

/-- A command that is called for a file. -/
structure Call where
  words : List Text
  /-- Whether it is called in the directory of the file. -/
  inside : Bool := false
  asks : Bool := false
deriving DecidableEq

/-- What is done with a file. What is printed goes to a file if one is named. -/
inductive Action
  | print (goal : Option Text) (ending : Char)
  | printAs (goal : Option Text) (format : List Segment)
  | list (goal : Option Text)
  | remove
  /-- A command is called, with the path in the place of two braces. -/
  | call (call : Call)
  /-- One command is called in the end, with all paths behind it. -/
  | gather (call : Call)
  | prune
  | quit

inductive Joint
  | both
  | either
  /-- One comes behind the other, whose answer does not count. -/
  | behind
deriving DecidableEq

def Joint.strength : Joint → Nat
  | behind => 1
  | either => 2
  | both => 3

/-- Questions and actions in their order. -/
inductive Query
  | ask (question : Question)
  | act (action : Action)
  | not (query : Query)
  | join (joint : Joint) (first second : Query)

/-- Whether an action does something that can be seen. -/
def Action.shows : Action → Bool
  | .prune => false
  | _ => true

def Query.acts : Query → Bool
  | ask _ => false
  | act action => action.shows
  | not query => query.acts
  | join _ first second => first.acts || second.acts

def Question.answer (disk : Disk) (here : Place) (item : Item) : Question → Bool
  | .name fold pattern =>
    let last := FileTool.lastName item.path
    accepts fold pattern (if last.isEmpty then item.path.take 1 else last)
  | .wholePath fold pattern => accepts fold pattern item.path
  | .target fold pattern =>
    match item.entry with
    | .link path => accepts fold pattern path
    | _ => false
  | .expression fold e =>
    (Expression.longest? fold e ⟨none, raw item.path, []⟩).any (·.rest.isEmpty)
  | .kind letters => letters.contains (letterOf item.entry)
  | .otherKind letters =>
    if item.entry = item.self then
      let letter := item.goalLetter disk here
      letters.contains (if letter = 'N' then 'l' else letter)
    else letters.contains (letterOf item.self)
  | .empty =>
    match item.entry with
    | .directory _ => (disk.children item.place).isEmpty
    | .file file => file.contents.isEmpty
    | .link _ => false
  | .size amount unit => amount.accepts ((FileTool.sizeOf item.entry + unit - 1) / unit)
  | .names amount => amount.accepts (FileTool.nameCount disk item.place item.entry)
  | .owner amount => amount.accepts 0
  | .mode likeness bits folderBits =>
    likeness.holds (if item.entry.isDirectory then folderBits else bits)
      (FileTool.rightsOf item.entry)
  | .written order moment span =>
    let own := FileTool.timeOf item.entry
    match order with
    | .gt => own < moment
    | .lt => moment < own
    | .eq => moment < own && own ≤ moment + span
  | .same place => FileTool.isSame disk place item.place
  | .executable =>
    match item.entry with
    | .file file => file.executable
    | _ => true
  | .always answer => answer
where
  /-- Whether a pattern stands for a text, perhaps whether letters are capitals or not. -/
  accepts (fold : Bool) (pattern t : Text) : Bool :=
    if fold then Wildcard.accepts (pattern.map Char.toLower) (t.map Char.toLower)
    else Wildcard.accepts pattern t

/-- What is directly below what a search has come to, as far as symbolic links are not followed. -/
def Item.below (disk : Disk) (item : Item) : List Item :=
  match item.entry with
  | .directory _ =>
    (FileTool.namesIn disk item.place true).filterMap fun name =>
      let place := item.place ++ [name]
      let path := FileTool.below item.path name
      (disk.get? place).map fun entry =>
        { path, start := item.start, depth := item.depth + 1, place, entry, self := entry
          above := (item.place, item.path) :: item.above }
  | _ => []

/-- An item with what a symbolic link leads to in its place, if that is there. What is one of the
directories above it, or leads around, is complained about. -/
def Item.followed (disk : Disk) (here : Place) (item : Item) : Except Text Item :=
  match FileTool.look disk true here item.path with
  | .ok (place, entry) =>
    match item.above.lookup place with
    | some path =>
      .error ("File system loop detected; " ++ FileTool.printed item.path ++
        " is part of the same file system loop as " ++ FileTool.printed path ++ ".")
    | none => .ok { item with place, entry }
  | .error .tooManyLinks =>
    .error (FileTool.printed item.path ++ ": " ++ Disk.Reason.tooManyLinks.words)
  | .error _ => .ok item

end Agenda.Shell.Find
