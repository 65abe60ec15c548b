import Agenda.Disk.Basic
import Agenda.Disk.Path

/-!
# Paths of file tools

What the paths that tools are given lead to, and how tools name them when they have something to
say about them.
-/

namespace Agenda.Shell.FileTool

/-- What is at the end of a path; `through` says whether a symbolic link there is followed. A path
that ends in a slash leads to a directory or nowhere. -/
def look (disk : Disk) (through : Bool) (here : Place) (path : Text) :
    Except Disk.Reason (Place × Entry) :=
  match disk.trace through here path with
  | .error reason => .error reason
  | .ok target =>
    match disk.get? target.place with
    | none => .error .missing
    | some entry =>
      if target.slash && !entry.isDirectory then .error .notDirectory else .ok (target.place, entry)

/-- The place at the end of a path, if the path can be followed. -/
def place? (disk : Disk) (here : Place) (path : Text) : Option Place :=
  (disk.follow here path).toOption.map (·.place)

def at? (disk : Disk) (here : Place) (path : Text) : Option (Place × Entry) :=
  (look disk true here path).toOption

/-- What a path leads to, which may be a symbolic link. -/
def self? (disk : Disk) (here : Place) (path : Text) : Option (Place × Entry) :=
  (look disk false here path).toOption

/-- Why nothing is found at the end of a path. -/
def reasonAt (disk : Disk) (here : Place) (path : Text) : Disk.Reason :=
  match look disk true here path with
  | .error reason => reason
  | .ok _ => .missing

/-- The last name of a path, which may be a dot; slashes behind it do not count. -/
def lastName (path : Text) : Text :=
  ((path.reverse.dropWhile (· = '/')).takeWhile (· ≠ '/')).reverse

def below (path name : Text) : Text :=
  if Text.endsWith "/" path then path ++ name else path ++ '/' :: name

def treeAt (disk : Disk) (place : Place) : List (Place × Entry) :=
  disk.entries.filter fun (p, _) => place.isPrefixOf p

/-- A disk with the entries of a tree from one place put at another one. -/
def putTree (tree : List (Place × Entry)) (source goal : Place) (disk : Disk) : Disk :=
  tree.foldl (fun disk (p, entry) => disk.put (goal ++ p.drop source.length) entry) disk

def namesIn (disk : Disk) (place : Place) (hidden : Bool) : List Text :=
  ((disk.children place).filter fun name => hidden || name.head? != some '.').mergeSort
    fun a b => decide (¬ b < a)

/-- The letters for a character that cannot be seen, if it is one. -/
def hiddenSign? (c : Char) : Option Text :=
  let letters : List (Char × Char) := [('\x07', 'a'), ('\x08', 'b'), ('\x0c', 'f'), ('\n', 'n'),
    ('\r', 'r'), ('\t', 't'), ('\x0b', 'v')]
  match letters.lookup c with
  | some letter => some ['\\', letter]
  | none =>
    if c < ' ' ∨ c = '\x7f' then
      let digits := Nat.toDigits 8 c.toNat
      some ('\\' :: List.replicate (3 - digits.length) '0' ++ digits)
    else none

/-- The rest of a path between quotation marks, where what cannot be seen is written with letters;
`hidden` says whether such a character was the last one. -/
def quotedRest (hidden : Bool) : Text → Text
  | [] => ['\x27']
  | c :: rest =>
    match hiddenSign? c with
    | some sign => (if hidden then [] else "'$'".toList) ++ sign ++ quotedRest true rest
    | none =>
      (if hidden then "''".toList else []) ++ (if c = '\x27' then "'\\''".toList else [c]) ++
        quotedRest false rest

/-- A path between the quotation marks of the shell. -/
def shown (path : Text) : Text :=
  if path.any fun c => (hiddenSign? c).isSome then '\x27' :: quotedRest false path
  else if path.contains '\x27' && !path.contains '\x22' then '\x22' :: path ++ ['\x22']
  else '\x27' :: path ++ ['\x27']

/-- Whether a name means something else to the shell if it is not quoted. -/
def needsMarks (name : Text) : Bool :=
  name.isEmpty || name.any "?\\\x27 !\x22$&()*;<=>[^\x60|\t\n".toList.contains ||
    name.head? == some '#' || name.head? == some '~'

/-- A path between the quotation marks of the shell if it needs some. -/
def named (path : Text) : Text := if needsMarks path then shown path else path

/-- A path between the quotation marks of books. -/
def printed (path : Text) : Text := "‘" ++ path ++ "’"

def pathText (place : Place) : Text := '/' :: Text.join "/" place

/-- The place at the end of a path as it is written. -/
def writtenPlace (here : Place) (path : Text) : Place :=
  (Disk.namesOf path).foldl (fun place name =>
    if name = ['.'] then place
    else if name = ['.', '.'] then place.dropLast
    else place ++ [name]) (if Text.startsWith "/" path then [] else here)

/-- How many names two places share at their start. -/
def sharedLength : Place → Place → Nat
  | a :: rest, b :: others => if a = b then sharedLength rest others + 1 else 0
  | _, _ => 0

def pathBetween (start goal : Place) : Text :=
  let common := sharedLength start goal
  let names := List.replicate (start.length - common) "..".toList ++ goal.drop common
  if names.isEmpty then ['.'] else Text.join "/" names

def complaint (words path : Text) (reason : Disk.Reason) : Text :=
  words ++ " " ++ shown path ++ ": " ++ reason.words

/-- How two paths are named that lead to one file. -/
def sameFile (source goal : Text) : Text :=
  shown source ++ " and " ++ shown goal ++ " are the same file"

/-- Whether two places hold one file, perhaps under two names. -/
def isSame (disk : Disk) (one other : Place) : Bool :=
  one == other || match disk.get? one, disk.get? other with
    | some (.file a), some (.file b) => a.group.isSome && a.group == b.group
    | _, _ => false

def sizeOf : Entry → Nat
  | .directory _ => 4096
  | .file file => file.contents.size
  | .link path => (Text.toBytes path).size

/-- When what is at a place was written. -/
def timeOf : Entry → Int
  | .file file => file.time
  | _ => firstMoment

/-- The mode of a file: what its owner, its group and all others may do with it. -/
def modeOf (file : File) : Nat := file.mode.getD (if file.executable then 493 else 420)

def withMode (mode : Nat) (file : File) : File :=
  { file with mode := some mode, executable := mode &&& 73 ≠ 0 }

/-- What may be done with something. -/
def rightsOf : Entry → Nat
  | .directory mode => mode
  | .file file => modeOf file
  | .link _ => 511

/-- The disk with something moved from one place to another one, with all below it. -/
def relocate (disk : Disk) (source goal : Place) : Disk :=
  putTree (treeAt disk source) source goal ((disk.eraseTree goal).eraseTree source)

/-- The disk with another name for the file at a place, if there is one. -/
def share (disk : Disk) (source goal : Place) : Disk :=
  match disk.get? source with
  | some (.file file) =>
    let used := disk.entries.filterMap fun (_, entry) =>
      match entry with
      | .file other => other.group
      | _ => none
    let file := { file with group := file.group.or (some (used.foldl max 0 + 1)) }
    (disk.put source (.file file)).put goal (.file file)
  | some entry => disk.put goal entry
  | none => disk

/-- What a path leads to that stands for a stream of a tool, and not for a file. -/
inductive Device
  | nothing
  | input
  | output
  | complaints
deriving DecidableEq

def device? (path : Text) : Option Device :=
  let table : List (Text × Device) := [("/dev/null", .nothing), ("/dev/stdin", .input),
    ("/dev/fd/0", .input), ("/dev/stdout", .output), ("/dev/fd/1", .output),
    ("/dev/stderr", .complaints), ("/dev/fd/2", .complaints)]
  table.lookup path

end Agenda.Shell.FileTool
