import Agenda.Disk.Pattern
import Agenda.Disk.Refusal
import Agenda.Text.Utf8

/-!
# Disks

A disk is a finite tree of directories, files and symbolic links, held as a list of places with what
is there. A place is the list of names on the way from the root. What a program asks of it (reading,
writing, removing) is a function that gives the disk afterwards or a refusal. Paths are followed
through symbolic links; a file with several names is changed under all of them. Besides what follows
from the tree, anything may be refused for reasons of the system's own, such as a directory that may
not be searched or a device that is full (`Limits`).
-/

namespace Agenda

/-- A place on a disk: the names from the root to it. -/
abbrev Place := List Text

/-- The moment at which disks start, in milliseconds of the common count. -/
def firstMoment : Int := 1767225600000

/-- A file: its bytes and what may be done with it. -/
structure File where
  contents : ByteArray
  readable : Bool := true
  writable : Bool := true
  executable : Bool := false
  /-- The files of one group are one file under several names. -/
  group : Option Nat := none
  /-- When it was written. -/
  time : Int := firstMoment
  /-- What may be done with it, as a number of four octal digits, where that was chosen. -/
  mode : Option Nat := none

instance : DecidableEq File := fun a b =>
  decidable_of_iff (a.contents.data = b.contents.data ∧ a.readable = b.readable ∧
      a.writable = b.writable ∧ a.executable = b.executable ∧ a.group = b.group ∧
      a.time = b.time ∧ a.mode = b.mode) (by
    cases a
    cases b
    simp [ByteArray.ext_iff])

/-- What can be at a place. -/
inductive Entry
  /-- A directory, with the number of four octal digits that tools show for it. What is refused in a
  directory does not follow from that number, which does not bind every user. -/
  | directory (mode : Nat)
  | file (file : File)
  /-- A name for what another path leads to. -/
  | link (path : Text)
deriving DecidableEq

namespace Entry

/-- A directory that everybody may read and its owner may change. -/
def commonDirectory : Entry := .directory 493

def isDirectory : Entry → Bool
  | directory _ => true
  | _ => false

def isFile : Entry → Bool
  | file _ => true
  | _ => false

end Entry

/-- What the system can be asked for at a place. -/
inductive Access
  /-- Going on through a directory. -/
  | search
  /-- Finding out what is there. -/
  | look
  /-- The names in a directory. -/
  | list
  | openToRead
  | read
  | openToWrite
  | make
  | remove
deriving Repr, DecidableEq

/-- What the system refuses on a disk for reasons of its own. -/
structure Limits where
  refuses : Access → Place → Option Disk.Reason := fun _ _ => none
  /-- The number of bytes that a file at a place has room for, if they are limited, and the reason
  for which more of them are refused. -/
  room : Place → Option (Nat × Disk.Reason) := fun _ => none

/-- The places that hold something. The root is a directory without being listed. -/
structure Disk where
  entries : List (Place × Entry)
  limits : Limits := {}
  /-- The moment at which files are written. -/
  clock : Int := firstMoment
  /-- What may not be done with new files, as a number of three octal digits. -/
  mask : Nat := 18

namespace Disk

def empty : Disk := { entries := [] }

def get? (disk : Disk) (place : Place) : Option Entry :=
  if place.isEmpty then some .commonDirectory else disk.entries.lookup place

/-- The entries with a place bound to something else; a new place comes last. -/
def putIn (place : Place) (entry : Entry) : List (Place × Entry) → List (Place × Entry)
  | [] => [(place, entry)]
  | (p, e) :: rest => if p = place then (place, entry) :: rest else (p, e) :: putIn place entry rest

def put (disk : Disk) (place : Place) (entry : Entry) : Disk :=
  { disk with entries := putIn place entry disk.entries }

def erase (disk : Disk) (place : Place) : Disk :=
  { disk with entries := disk.entries.filter (·.1 ≠ place) }

/-- The disk with nothing at a place or below it. -/
def eraseTree (disk : Disk) (place : Place) : Disk :=
  { disk with entries := disk.entries.filter fun (p, _) => !place.isPrefixOf p }

/-- The names in a directory, in the order in which they came. -/
def children (disk : Disk) (place : Place) : List Text :=
  disk.entries.filterMap fun (p, _) =>
    if p ≠ [] ∧ p.dropLast = place then p.getLast? else none

def isDirectory (disk : Disk) (place : Place) : Bool :=
  (disk.get? place).any Entry.isDirectory

def namesOf (path : Text) : List Text := (path.splitOn '/').filter (· ≠ [])

/-- What keeps from passing through a place: it is no directory, or one that may not be searched. -/
def barrier? (disk : Disk) (place : Place) : Option Reason :=
  match disk.get? place with
  | none => some .missing
  | some (.file _) | some (.link _) => some .notDirectory
  | some (.directory _) => disk.limits.refuses .search place

/-- Goes down from a place along some names. All that is passed through has to be a directory; a dot
stays and two dots go up. Where a symbolic link is to be followed, `jump` goes on: on the way
always, and at the end if `through` says so; else what is at the end is not looked at. -/
def walkWith (disk : Disk) (through : Bool) (jump : Place → List Text → Except Reason Place)
    (place : Place) : List Text → Except Reason Place
  | [] => .ok place
  | name :: rest =>
    match disk.barrier? place with
    | some reason => .error reason
    | none =>
      if 255 < (Text.toBytes name).size then .error .nameTooLong
      else if name = ['.'] then walkWith disk through jump place rest
      else if name = ['.', '.'] then walkWith disk through jump place.dropLast rest
      else
        match disk.get? (place ++ [name]), rest.isEmpty && !through with
        | some (.link path), false =>
          jump (if Text.startsWith "/" path then [] else place) (namesOf path ++ rest)
        | _, _ => walkWith disk through jump (place ++ [name]) rest

/-- Goes down from a place along some names and up to `links` symbolic links. -/
def walk (disk : Disk) (through : Bool) : Nat → Place → List Text → Except Reason Place
  | 0 => disk.walkWith through fun _ _ => .error .tooManyLinks
  | links + 1 => disk.walkWith through (walk disk through links)

/-- The number of symbolic links that are followed on the way along a path. -/
def linkLimit : Nat := 40

/-- A path followed to its end: the place, and whether the path insists on a directory there by
ending in a slash. -/
structure Target where
  place : Place
  slash : Bool

/-- The length in bytes that a path must not reach. -/
def pathLimit : Nat := 4096

/-- Follows a path from a directory, or from the root if it starts with a slash; `through` says
whether a symbolic link at its end is followed, too. -/
def trace (disk : Disk) (through : Bool) (here : Place) (path : Text) : Except Reason Target :=
  if path.isEmpty then .error .missing
  else if pathLimit ≤ (Text.toBytes path).size then .error .nameTooLong
  else
    let start := if Text.startsWith "/" path then [] else here
    let slash := Text.endsWith "/" path
    (disk.walk (through || slash) linkLimit start (namesOf path)).map (⟨·, slash⟩)

def follow (disk : Disk) (here : Place) (path : Text) : Except Reason Target :=
  disk.trace true here path

/-- What is at a place in the end, behind symbolic links. -/
def final? (disk : Disk) (place : Place) : Option (Place × Entry) :=
  match disk.get? place with
  | some (.link path) =>
    (disk.follow place.dropLast path).toOption.bind fun target =>
      (disk.get? target.place).map (target.place, ·)
  | some entry => some (place, entry)
  | none => none

/-- The file at a place, or behind a symbolic link there. -/
def file? (disk : Disk) (place : Place) : Option File :=
  match disk.final? place with
  | some (_, .file file) => some file
  | _ => none

/-- Whether there is a file at a place, or behind a symbolic link there. -/
def isFile (disk : Disk) (place : Place) : Bool := (disk.file? place).isSome

/-- All files by their places, those behind symbolic links as well. -/
def files (disk : Disk) : List (Place × File) :=
  disk.entries.filterMap fun (place, _) => (disk.file? place).map (place, ·)

/-- The file that a path leads to, opened for reading. -/
def findFile (disk : Disk) (here : Place) (path : Text) : Except Reason (Place × File) :=
  match disk.follow here path with
  | .error reason => .error reason
  | .ok target =>
    match disk.get? target.place, disk.limits.refuses .openToRead target.place with
    | none, _ | some (.link _), _ => .error .missing
    | some _, some reason => .error reason
    | some (.directory _), none => .error .isDirectory
    | some (.file file), none =>
      if target.slash then .error .notDirectory
      else if file.readable then .ok (target.place, file)
      else .error .denied

/-- The place of a file that may be written: an existing file or a new one. -/
def findWritable (disk : Disk) (here : Place) (path : Text) : Except Reason Place :=
  match disk.follow here path with
  | .error reason => .error reason
  | .ok target =>
    let opened : Except Reason Place :=
      match disk.limits.refuses .openToWrite target.place with
      | some reason => .error reason
      | none => .ok target.place
    match disk.get? target.place with
    | some (.directory _) => .error .isDirectory
    | some (.file file) =>
      if target.slash then .error .notDirectory
      else if file.writable then opened
      else .error .denied
    | none =>
      if disk.isDirectory target.place.dropLast then
        if target.slash then .error .isDirectory else opened
      else .error .missing
    | some (.link _) => .error .missing

/-- The disk with another file at a place, and at all places of the group that the file is in. -/
def putFile (disk : Disk) (place : Place) (file : File) : Disk :=
  match file.group with
  | none => disk.put place (.file file)
  | some _ =>
    { disk with entries := disk.entries.map fun (p, entry) =>
        match entry with
        | .file other => (p, if other.group = file.group then .file file else entry)
        | entry => (p, entry) }

def newFile (disk : Disk) (contents : ByteArray) : File where
  contents := contents
  time := disk.clock
  mode := if disk.mask = 18 then none else some (438 &&& (511 ^^^ disk.mask))

def newDirectory (disk : Disk) : Entry := .directory (511 &&& (511 ^^^ disk.mask))

/-- The disk with a file that holds some bytes; a file that is there already keeps what may be
done with it. -/
def store (disk : Disk) (place : Place) (contents : ByteArray) : Disk :=
  match disk.get? place with
  | some (.file file) => disk.putFile place { file with contents, time := disk.clock }
  | _ => disk.put place (.file (disk.newFile contents))

/-- The bytes of the file at a place; there are none where there is no file. -/
def contentsAt (disk : Disk) (place : Place) : ByteArray :=
  match disk.get? place with
  | some (.file file) => file.contents
  | _ => .empty

/-- The disk with a file at a place that holds some bytes and behind them as many more as there is
room for, and the reason for which the others are refused. -/
def fill (disk : Disk) (place : Place) (kept more : ByteArray) : Option Reason × Disk :=
  match disk.limits.room place with
  | none => (none, disk.store place (kept ++ more))
  | some (count, reason) =>
    if kept.size + more.size ≤ count then (none, disk.store place (kept ++ more))
    else (some reason, disk.store place (kept ++ more.extract 0 (count - kept.size)))

/-- The bytes of the file at the end of a path. The file may be refused when it is opened, or when
it is read. -/
def read (disk : Disk) (here : Place) (path : Text) : Except Refusal ByteArray :=
  match disk.findFile here path with
  | .error reason => .error ⟨reason, path⟩
  | .ok (place, file) =>
    match disk.limits.refuses .read place with
    | some reason => .error ⟨reason, none⟩
    | none => .ok file.contents

/-- Writes some bytes to the file at the end of a path: what is refused, and the disk afterwards. A
file that cannot be opened stays as it is; one that is opened loses what it held, and then the bytes
go into it as far as there is room. -/
def write (disk : Disk) (here : Place) (path : Text) (contents : ByteArray) :
    Option Refusal × Disk :=
  match disk.findWritable here path with
  | .error reason => (some ⟨reason, path⟩, disk)
  | .ok place =>
    let (refused, disk) := disk.fill place .empty contents
    (refused.map (⟨·, none⟩), disk)

/-- The disk with a new directory at the end of a path. -/
def makeDirectory (disk : Disk) (here : Place) (path : Text) : Except Refusal Disk :=
  match disk.trace false here path with
  | .error reason => .error ⟨reason, path⟩
  | .ok target =>
    if (disk.get? target.place).isSome then .error ⟨.occupied, path⟩
    else if disk.isDirectory target.place.dropLast then
      match disk.limits.refuses .make target.place with
      | some reason => .error ⟨reason, path⟩
      | none => .ok (disk.put target.place disk.newDirectory)
    else .error ⟨.missing, path⟩

/-- The disk with more bytes at the end of the file at a place. -/
def extend (disk : Disk) (place : Place) (more : ByteArray) : Disk :=
  disk.store place (disk.contentsAt place ++ more)

def look (disk : Disk) (here : Place) (path : Text) : Except Reason Entry :=
  match disk.follow here path with
  | .error reason => .error reason
  | .ok target =>
    match disk.get? target.place, disk.limits.refuses .look target.place with
    | none, _ | some (.link _), _ => .error .missing
    | some _, some reason => .error reason
    | some entry, none =>
      if target.slash && !entry.isDirectory then .error .notDirectory else .ok entry

/-- Whether there is something of a kind at the end of a path. If nothing is there, that is no
refusal.
-/
def finds (disk : Disk) (kind : Entry → Bool) (here : Place) (path : Text) : Except Reason Bool :=
  match disk.look here path with
  | .ok entry => .ok (kind entry)
  | .error reason => if reason.isAbsence then .ok false else .error reason

/-- Whether a text can be the name of something in a directory. -/
def isName (name : Text) : Bool :=
  name ≠ [] ∧ name ≠ ['.'] ∧ name ≠ ['.', '.'] ∧ '/' ∉ name ∧ '\x00' ∉ name ∧
    (Text.toBytes name).size ≤ 255

/-- The names in the directory at the end of a path. -/
def names (disk : Disk) (here : Place) (path : Text) : Except Reason (List Text) :=
  match disk.follow here path with
  | .error reason => .error reason
  | .ok target =>
    match disk.limits.refuses .list target.place with
    | some reason => .error reason
    | none => .ok ((disk.children target.place).filter isName)

/-- The disk without the file or the symbolic link at the end of a path. -/
def unlink (disk : Disk) (here : Place) (path : Text) : Except Refusal Disk :=
  match disk.trace false here path with
  | .error reason => .error ⟨reason, path⟩
  | .ok target =>
    match disk.get? target.place, disk.limits.refuses .remove target.place with
    | none, _ => .error ⟨.missing, path⟩
    | some _, some reason => .error ⟨reason, path⟩
    | some (.directory _), none => .error ⟨.isDirectory, path⟩
    | some _, none => .ok (disk.erase target.place)

theorem lookup_putIn (place : Place) (entry : Entry) (entries : List (Place × Entry)) (p : Place) :
    (putIn place entry entries).lookup p =
      if p = place then some entry else entries.lookup p := by
  induction entries with
  | nil =>
    by_cases h : p = place
    · simp [putIn, h]
    · simp [putIn, List.lookup_cons, beq_eq_false_iff_ne.mpr h, h]
  | cons head rest ih =>
    obtain ⟨q, e⟩ := head
    by_cases hq : q = place
    · subst hq
      by_cases h : p = q
      · simp [putIn, h]
      · simp [putIn, List.lookup_cons, beq_eq_false_iff_ne.mpr h, h]
    · by_cases h : p = q
      · simp [putIn, h, hq]
      · simp [putIn, hq, List.lookup_cons, beq_eq_false_iff_ne.mpr h, ih]

theorem get?_put {disk : Disk} {place : Place} {entry : Entry} (h : place ≠ []) (p : Place) :
    (disk.put place entry).get? p = if p = place then some entry else disk.get? p := by
  by_cases hp : p = []
  · subst hp
    simp [get?, Ne.symm h]
  · simp [get?, put, lookup_putIn, hp]

end Disk

end Agenda
