import Agenda.Shell.Session

/-!
# The surroundings of a script

Where a script is, and how it goes somewhere else. The names by which it came there are kept, so
that two dots lead back along them, also behind a symbolic link.

The limits of what a process may use: of time, of files, of memory. For each of them there is one
that holds and one that it can be raised to.
-/

namespace Agenda.Shell.Session

/-- A disk on which the directories down to a place are there. -/
def withDirectories (disk : Disk) (place : Place) : Disk :=
  (List.range (place.length + 1)).foldl (fun disk count =>
    if (disk.get? (place.take count)).isSome then disk
    else disk.put (place.take count) .commonDirectory) disk

/-- The session in another directory, if there is one at the end of a path; `physical` says that
symbolic links are followed first. -/
def enters? (session : Session) (physical : Bool) (path : Text) : Except Disk.Reason Session :=
  let route := FileTool.writtenPlace session.way path
  let whole := if physical then path else FileTool.pathText route
  match FileTool.look session.disk true session.here whole with
  | .ok (place, .directory _) =>
    let session := { session with
      here := place, route := if physical ∨ route = place then none else some route }
    .ok session
  | .ok _ => .error .notDirectory
  | .error reason =>
    match Outside.at? (FileTool.pathText route) with
    | some .directory =>
      .ok { session with disk := withDirectories session.disk route, here := route, route := none }
    | some _ => .error .notDirectory
    | none => .error reason

/-- The session after a script has come to its directory from another one. -/
def arrives (before session : Session) : Session :=
  let session := { session with exported := "OLDPWD" :: session.exported }
  ((session.assign "OLDPWD" (FileTool.pathText before.way)).assign "PWD"
    (FileTool.pathText session.way)).ended 0

/-- The paths that the variable for directories gives a path, and whether they are to be told. -/
def choicesFor (session : Session) (path : Text) : List (Text × Bool) :=
  let first := path.takeWhile (· ≠ '/')
  if first.isEmpty ∨ first = ['.'] ∨ first = ['.', '.'] then []
  else match session.bindings.lookup "CDPATH".toList with
    | none => []
    | some value => (value.splitOn ':').map fun directory =>
      (if directory.isEmpty then path else FileTool.below directory path, !directory.isEmpty)

/-- Changes to another directory, under one of the names of the command that does so. -/
def changesDirectory (name : Text) (session : Session) (arguments : List Text) : Session :=
  let fails (words : Text) : Session :=
    session.failsAs (name ++ ": " ++ words) (if session.large then 1 else 2)
  match lettersOf (if session.large then "LPe@" else "LP") arguments with
  | .error letter => session.refusesOption name "cd [-L|[-P [-e]] [-@]] [dir]" letter
  | .ok (letters, operands) =>
    let physical := letters.getLast? = some 'P'
    let named (name : Text) : Option Text := session.bindings.lookup name
    let found : Except Text (Text × Bool) := match operands with
      | [] => match named "HOME", session.large with
        | some path, _ => .ok (path, false)
        | none, large => if large then .error "HOME not set" else .ok ([], false)
      | [['-']] => match named "OLDPWD", session.large with
        | some path, _ => .ok (path, true)
        | none, large => if large then .error "OLDPWD not set" else .ok ([], true)
      | [path] => .ok (path, false)
      | path :: _ => if session.large then .error "too many arguments" else .ok (path, false)
    match found with
    | .error words => fails words
    | .ok (path, tells) =>
      let path := if path.isEmpty then ['.'] else path
      let choices := (session.choicesFor path).filterMap fun (path, tells) =>
        (session.enters? physical path).toOption.map (·, tells)
      let goes (after : Session) (tells : Bool) : Session :=
        let after := session.arrives after
        if tells then after.print 1 (raw (FileTool.pathText after.way ++ "\n")) else after
      match choices, session.enters? physical path with
      | (after, tells) :: _, _ => goes after tells
      | [], .ok after => goes after tells
      | [], .error reason =>
        fails (if session.large then path ++ ": " ++ reason.words else "can't cd to " ++ path)

def tellsDirectory (session : Session) (arguments : List Text) : Session :=
  match lettersOf "LP" arguments with
  | .error letter => session.refusesOption "pwd" "pwd [-LP]" letter
  | .ok (letters, _) =>
    let place := if letters.getLast? = some 'P' then session.here else session.way
    session.utters (raw (FileTool.pathText place ++ "\n"))

end Agenda.Shell.Session

namespace Agenda.Shell

/-- A limit of what a process may use: its letter, its name, and what it is at the start. -/
structure Ceiling where
  letter : Char
  name : Text
  soft : Option Nat := none
  hard : Option Nat := none

/-- The limits that there are. -/
def Ceiling.all : List Ceiling := [
  { letter := 't', name := "time(seconds)" }, { letter := 'f', name := "file(blocks)" },
  { letter := 'd', name := "data(kbytes)" },
  { letter := 's', name := "stack(kbytes)", soft := some 8192 },
  { letter := 'c', name := "coredump(blocks)" }, { letter := 'm', name := "memory(kbytes)" },
  { letter := 'l', name := "locked memory(kbytes)", soft := some 8192, hard := some 8192 },
  { letter := 'p', name := "process" },
  { letter := 'n', name := "nofiles", soft := some 1048576, hard := some 1048576 },
  { letter := 'v', name := "vmemory(kbytes)" }, { letter := 'w', name := "locks" },
  { letter := 'r', name := "rtprio", soft := some 0, hard := some 0 }]

namespace Session

/-- The limit that holds and the one that it can be raised to. -/
def ceiling (session : Session) (ceiling : Ceiling) : Option Nat × Option Nat :=
  (session.ceilings.lookup ceiling.letter).getD (ceiling.soft, ceiling.hard)

def setCeiling (session : Session) (ceiling : Ceiling) (limits : Option Nat × Option Nat) :
    Session :=
  { session with
    ceilings := (ceiling.letter, limits) :: session.ceilings.filter (·.1 ≠ ceiling.letter) }

def isAbove (limit other : Option Nat) : Bool :=
  match limit, other with
  | none, some _ => true
  | some n, some m => m < n
  | _, none => false

def limitText (limit : Option Nat) : Text :=
  match limit with
  | some n => Text.ofNat n
  | none => "unlimited"

def setsLimits (session : Session) (arguments : List Text) : Session :=
  let fails (words : Text) : Session :=
    session.failsAs ("ulimit: " ++ words) (if session.large then 1 else 2)
  match lettersOf ("HSa".toList ++ Ceiling.all.map (·.letter)) arguments with
  | .error letter => session.refusesOption "ulimit" "ulimit [-SHabcdefiklmnpqrstuvxPRT] [limit]" letter
  | .ok (letters, operands) =>
    let which := (letters.filter fun c => !"HSa".toList.contains c).getLast?.getD 'f'
    let ways := letters.filter "HS".toList.contains
    let hard := ways.getLast? ≠ some 'S'
    let soft := ways.getLast? ≠ some 'H'
    let told (ceiling : Ceiling) : Text :=
      let limits := session.ceiling ceiling
      limitText (if soft then limits.1 else limits.2)
    match Ceiling.all.find? (·.letter = which), operands with
    | none, _ => session.ended 0
    | some ceiling, [] =>
      session.utters (if letters.contains 'a' then
          Ceiling.all.flatMap fun ceiling =>
            ceiling.name ++ List.replicate (20 - ceiling.name.length) ' ' ++ ' ' :: told ceiling ++
              ['\n']
        else told ceiling ++ ['\n'])
    | some ceiling, value :: others =>
      if letters.contains 'a' || !others.isEmpty then fails "too many arguments"
      else if value ≠ "unlimited".toList && !value.all Char.isDigit then
        fails (if session.large then value ++ ": invalid number" else "bad number")
      else
        let limit := if value = "unlimited".toList then none else some (Text.natOfDigits value)
        let limits := session.ceiling ceiling
        let limits := (if soft then limit else limits.1, if hard then limit else limits.2)
        if isAbove limits.1 limits.2 then fails "error setting limit (Invalid argument)"
        else (session.setCeiling ceiling limits).ended 0

end Session

end Agenda.Shell
