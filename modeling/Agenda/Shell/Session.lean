import Agenda.Shell.Arithmetic
import Agenda.Shell.Condition
import Agenda.Shell.FileTool
import Agenda.Shell.Grammar
import Agenda.Shell.Outside

/-!
# Sessions of the shell

What a running script can read and change: the disk and the directory that it is in, its parameters,
and where its streams lead. What is printed to a stream goes to the end of a buffer or of a file.
-/

namespace Agenda.Shell

/-- Where a stream leads. -/
inductive Channel
  | buffer (index : Nat)
  | file (place : Place)
  | nowhere
  /-- A place that has no room for anything. -/
  | full
deriving DecidableEq

/-- A command in the background that sleeps: the process that it is and the one that has started
it, when it wakes, what it does then, and what it sees. -/
structure Job where
  number : Nat
  starter : Nat
  due : Int
  rest : List Command
  here : Place
  arguments : List Text
  bindings : List (Text × Text)
  functions : List (Text × Command)
  channels : List (Nat × Channel)
  farewell : Text
  traps : List (Nat × Text)

/-- A limit of time for processes: the first of them, when it runs out, the signal that they get
then, how much later they are ended for good, and where that is told of for which command. -/
structure Deadline where
  first : Nat
  moment : Int
  signal : Nat
  patience : Option Int
  told : Option (Option Channel × Text)

/-- The state of a running script. -/
structure Session where
  disk : Disk
  here : Place
  /-- The names by which the script came to that place, if some of them are symbolic links. -/
  route : Option Place := none
  name : Text
  arguments : List Text
  bindings : List (Text × Text)
  functions : List (Text × Command)
  /-- How the last command ended. -/
  status : Nat
  /-- What is left to be read. -/
  input : ByteArray
  /-- What is left to be read from other streams. -/
  others : List (Nat × ByteArray) := []
  /-- Whether that is a file, whose size is known. -/
  fromFile : Bool := false
  channels : List (Nat × Channel)
  buffers : List ByteArray
  /-- Whether a command that fails ends the script. -/
  strict : Bool
  /-- Whether a variable has to have a value. -/
  demanding : Bool := false
  /-- Whether patterns are left as they are. -/
  plainPaths : Bool := false
  /-- Whether files that exist are not written anew. -/
  careful : Bool := false
  /-- Whether commands are shown before they are run. -/
  traced : Bool := false
  /-- The script that is run in the end. -/
  farewell : Text := []
  /-- The scripts that are run when a signal comes. -/
  traps : List (Nat × Text) := []
  /-- The number of loops around the command. -/
  loops : Nat := 0
  /-- In a function, the variables of its own with what is bound outside to them and to their
  elements. -/
  own : Option (List (Text × List (Text × Text))) := none
  /-- The number of processes that were started, and the last one in the background of this shell.
  -/
  jobCount : Nat := 0
  lastJob : Option Nat := none
  /-- The process that runs the script, the one that runs the command at hand and may be a part of
  the script, and the one that has started the script if it runs one as well. -/
  process : Nat := 0
  self : Nat := 0
  parent : Option Nat := none
  /-- The signals that were sent to processes and have not been met yet. -/
  signals : List (Nat × Nat) := []
  /-- The signal that has ended the last program, and whether the process is to become the program
  that it calls. -/
  fallen : Option Nat := none
  becomes : Bool := false
  /-- Whether something could not be printed. -/
  unwritten : Bool := false
  /-- The commands in the background that sleep. -/
  jobs : List Job := []
  /-- The limits of time for the processes that run. -/
  limits : List Deadline := []
  /-- How those commands in the background ended that are done, which of them were ended by signals,
  and which are gone. -/
  outcomes : List (Nat × Nat) := []
  felled : List Nat := []
  gone : List Nat := []
  /-- The commands in the background that are listed, by their places in the list. -/
  listed : List (Nat × Nat) := []
  /-- The place inside a word of options that is read next. -/
  letter : Nat := 0
  /-- How the last script inside a word ended. -/
  outcome : Nat := 0
  /-- The variables that keep their values. -/
  constants : List Text := []
  /-- The variables that other processes are told of, whether all new ones are among them, and the
  order in which they are told if no shell does that. -/
  exported : List Text := ["PATH", "HOME", "PWD"]
  exportsAll : Bool := false
  told : Option (List Text) := none
  /-- The limits of what a process may use, by their letters: one that holds, and one that it can be
  raised to. -/
  ceilings : List (Char × Option Nat × Option Nat) := []
  /-- The letters of options that are on and change nothing here. -/
  idleOptions : Text := []
  /-- Whether a part of a word could not be found out, which ends the script or only its line. -/
  stopped : Bool := false
  endsLine : Bool := false
  /-- The lists whose elements have names. -/
  maps : List Text := []
  /-- What is done with the values that some variables are given, by letters. -/
  forms : List (Text × Char) := []
  /-- The names that stand for other names. -/
  references : List (Text × Text) := []
  /-- The switches of the larger language that are on. -/
  switches : List Text := []
  /-- The functions that run, each with the line of the command that called it, the last one first;
  and the number of parts around the command that are processes of their own. -/
  calls : List (Text × Nat) := []
  depth : Nat := 0
  /-- How the commands of the last pipeline ended, if there were several, and whether a pipeline
  fails if any of its commands does. -/
  statuses : List Nat := []
  failsAnywhere : Bool := false
  /-- Whether the script is an argument of the command that runs it. -/
  inline : Bool := false
  /-- The number of scripts whose output can be read as a file. -/
  outputCount : Nat := 0
  /-- The words that stand for others at the start of a command. -/
  aliases : List (Text × Text) := []
  /-- Whether commands are read only and not run. -/
  readsOnly : Bool := false
  /-- The number of the last line of the script, and of the line of the command at hand. -/
  lastLine : Nat := 1
  line : Nat := 1
  /-- The command that runs the script at hand inside another one. -/
  caller : Text := []
  /-- Whether the script is written in the larger language. -/
  large : Bool := false

/-- What a script can stop at. -/
inductive Obstacle
  /-- A variable that is given a value keeps the one it has. -/
  | constant (name : Text)
  /-- A variable has to have a value. -/
  | unset (name : Text)
  /-- A variable has to have a value, or else some words are said. -/
  | demanded (name words : Text)
  /-- A variable has to have a value, which may not be empty. -/
  | missing (name : Text) (orEmpty : Bool)
  /-- What is in a pair of braces makes no sense. -/
  | malformed (inside : Text)
  /-- An expression is wrong, about which some words are said. -/
  | badSum (words : Text)
  /-- A pattern stands for no path. -/
  | unmatched (pattern : Text)

def Obstacle.message (large : Bool) : Obstacle → Text
  | constant name => name ++ if large then ": readonly variable" else ": is read only"
  | unset name =>
    if large then
      (if name.all Char.isDigit then '$' :: name else name) ++ ": unbound variable"
    else name ++ ": parameter not set"
  | demanded name words => name ++ ": " ++ words
  | missing name orEmpty =>
    name ++ if !orEmpty then ": parameter not set"
      else if large then ": parameter null or not set"
      else ": parameter not set or null"
  | malformed inside =>
    if large then "$\x7b" ++ inside ++ "\x7d: bad substitution" else "Bad substitution"
  | badSum words => words
  | unmatched pattern => "no match: " ++ pattern

/-- Whether an obstacle ends only the line in the larger language. -/
def Obstacle.isMild : Obstacle → Bool
  | constant _ | malformed _ | badSum _ | unmatched _ => true
  | _ => false

/-- How the run of a command ended, as far as the commands behind it are concerned. -/
inductive Course
  | goesOn
  | exits
  | returns
  | breaks (loops : Nat)
  | continues (loops : Nat)
  | killed (signal : Nat)
deriving DecidableEq

namespace Session

/-- The number of a process as scripts see it. -/
def jobNumber (number : Nat) : Text := Text.ofNat (4242 + number)

/-- A session that starts a script. Programs are looked for in some directories before those of the
system. -/
def start (disk : Disk) (here : Place) (search : List Place) (name : Text) (arguments : List Text) :
    Session :=
  { disk, here, name, arguments
    bindings := [("PATH", Text.join ":" (search.map FileTool.pathText ++
      [("/usr/bin" : Text), "/bin"])), ("HOME", "/root"), ("PWD", FileTool.pathText here)]
    functions := []
    status := 0
    input := .empty
    channels := [(1, .buffer 0), (2, .buffer 1)]
    buffers := [.empty, .empty]
    strict := false }

/-- The session with the end of its last command noted. -/
def ended (session : Session) (status : Nat) : Session := { session with status }

/-- Prints raw text to where a stream leads. -/
def printTo (session : Session) (channel : Option Channel) (t : Text) : Session :=
  match channel with
  | some (.buffer index) =>
    { session with buffers := session.buffers.modify index (· ++ bytesOf t) }
  | some (.file place) => { session with disk := session.disk.extend place (bytesOf t) }
  | some .nowhere | some .full | none => session

/-- Why nothing can be printed to where a stream leads. -/
def blocked? (channel : Option Channel) : Option Text :=
  match channel with
  | none => some "Bad file descriptor"
  | some .full => some "No space left on device"
  | _ => none

def print (session : Session) (stream : Nat) (t : Text) : Session :=
  let channel := session.channels.lookup stream
  { session.printTo channel t with
    unwritten :=
      session.unwritten || (stream = 1 && !t.isEmpty && (blocked? channel).isSome) }

def utters (session : Session) (t : Text) : Session := (session.print 1 t).ended 0

def complains (session : Session) (words : Text) : Session := session.print 2 (raw (words ++ "\n"))

/-- Shows the words of a command before it is run, if that is asked for. -/
def traces (session : Session) (channel : Option Channel) (words : List Text) : Session :=
  if session.traced then session.printTo channel (raw ("+ " ++ Text.join " " words ++ "\n"))
  else session

/-- Complains, and notes a bad end. -/
def fails (session : Session) (words : Text) (status : Nat) : Session :=
  (session.complains words).ended status

def lead (session : Session) (stream : Nat) (channel : Channel) : Session :=
  { session with
    channels := (stream, channel) :: session.channels.filter (·.1 ≠ stream) }

/-- Lets a stream lead to a new buffer, and gives the index of that one. -/
def collect (session : Session) (stream : Nat) : Session × Nat :=
  let index := session.buffers.length
  let session := { session with buffers := session.buffers ++ [ByteArray.empty] }
  (session.lead stream (.buffer index), index)

def collected (session : Session) (index : Nat) : ByteArray := session.buffers.getD index .empty

/-- A session after a part of it has been run by itself: the disk, the buffers, the commands that
sleep, the signals on their way, the limits of time, and the status stay changed. -/
def afterPart (before after : Session) : Session :=
  { before with
    disk := { after.disk with mask := before.disk.mask }
    buffers := after.buffers, status := after.status, jobs := after.jobs
    jobCount := after.jobCount, signals := after.signals, limits := after.limits }

/-- A session for a part of it that is run by itself, as a process of its own. Of what was noted for
signals it keeps only that some mean nothing. -/
def inside (session : Session) : Session :=
  let number := session.jobCount + 1
  { session with
    self := number, jobCount := number, farewell := [], listed := [], becomes := false
    depth := session.depth + 1
    traps := session.traps.filter fun (_, script) => script.isEmpty }

/-- How the script names itself and the line at hand when it complains. -/
def title (session : Session) : Text :=
  let before : Text := if session.large then ": line " else ": "
  session.name ++ before ++ Text.ofNat session.line

/-- Complains in the name of the script, and notes a bad end. -/
def failsAs (session : Session) (words : Text) (status : Nat) : Session :=
  session.fails (session.title ++ ": " ++ words) status

/-- Complains in the name of the script and of the command that runs it inside another one, and
notes a bad end. -/
def failsWithin (session : Session) (words : Text) (status : Nat) : Session :=
  let caller : Text := if session.caller.isEmpty then [] else session.caller ++ ": "
  session.failsAs (caller ++ words) status

/-- Complains in the name of the script, which is to end. In the larger language some obstacles end
only the line. -/
def stops (session : Session) (obstacle : Obstacle) : Session :=
  { session.failsWithin (obstacle.message session.large) 2 with
    stopped := true, endsLine := session.large && obstacle.isMild }

/-- How a script ends that has met an obstacle. -/
def halted (session : Session) : Course × Session :=
  let status :=
    if !session.large then 2
    else if session.inline ∧ !session.endsLine ∧ session.self = session.process then 127
    else 1
  (.exits, session.ended status)

/-- The session after a part of it has read on in another stream. -/
def readOn (session : Session) (stream : Nat) (left : ByteArray) : Session :=
  { session with others := (stream, left) :: session.others.filter (·.1 ≠ stream) }

/-- The names by which the script came to where it is. -/
def way (session : Session) : Place :=
  match session.route with
  | some route =>
    if FileTool.place? session.disk [] (FileTool.pathText route) = some session.here then route
    else session.here
  | none => session.here

/-- The characters that part fields. -/
def separators (session : Session) : Text :=
  (session.bindings.lookup ("IFS" : Text)).getD " \t\n".toList

/-- The place among 1024 at which an element of a name is kept; that decides about the order of such
elements. -/
def bucketOf (key : Text) : Nat :=
  (raw key).foldl (fun hash c => (hash * 16777619 % 4294967296) ^^^ c.toNat) 2166136261 % 1024

/-- The place among 39 at which a name is kept by the smaller language; that decides about the order
of names. -/
def smallBucketOf (name : Text) : Nat :=
  ((raw name).foldl (fun sum c => sum + c.toNat) (16 * ((raw name).headD '\x00').toNat)) % 39

/-- The variables that other processes are told of. -/
def environment (session : Session) : List (Text × Text) :=
  match session.told with
  | some names => names.filterMap fun name => (session.bindings.lookup name).map (name, ·)
  | none =>
    let order := if session.large then bucketOf else smallBucketOf
    (session.bindings.reverse.filter fun (name, _) => session.exported.contains name).mergeSort
      fun a b => decide (order a.1 ≤ order b.1)

/-- The name that a name stands for, which may have an index behind it. -/
def target (session : Session) (name : Text) : Text :=
  let start := name.takeWhile (· ≠ '[')
  match session.references.lookup start with
  | some target => target ++ name.drop start.length
  | none => name

/-- The lists that the larger language makes by itself. -/
def ownList (session : Session) (name : Text) : List Text :=
  let isInside := !session.calls.isEmpty
  let lists : List (Text × List Text) := [
    ("PIPESTATUS", (if session.statuses.isEmpty then [session.status] else session.statuses).map
      Text.ofNat),
    ("FUNCNAME", session.calls.map (·.1) ++
      if isInside && !session.inline then ["main".toList] else []),
    ("BASH_LINENO", session.calls.map (fun call => Text.ofNat call.2) ++
      if session.inline then [] else [['0']]),
    ("BASH_SOURCE", session.calls.map (fun _ =>
        if session.inline then "environment".toList else session.name) ++
      if session.inline then [] else [session.name]),
    ("BASH_VERSINFO", ["5", "2", "15", "1", "release", "x86_64-pc-linux-gnu"]),
    ("GROUPS", [['0']]), ("DIRSTACK", [FileTool.pathText session.way])]
  (lists.lookup name).getD []

/-- The elements of a list with their indices or names, in order. A plain variable is a list of one
element. -/
def elements (session : Session) (name : Text) : List (Text × Text) :=
  let name := session.target name
  let start := name ++ ['[']
  let found := session.bindings.filterMap fun (own, value) =>
    if Text.startsWith start own then some ((own.drop start.length).dropLast, value) else none
  let order := if session.maps.contains name then bucketOf else Text.natOfDigits
  match found, session.bindings.lookup name with
  | [], some value => [(['0'], value)]
  | [], none => (session.ownList name).zipIdx.map fun (value, index) => (Text.ofNat index, value)
  | found, _ => found.mergeSort fun a b => decide (order a.1 ≤ order b.1)

def elementName (name key : Text) : Text := name ++ '[' :: key ++ [']']

def indexed? (name : Text) : Option (Text × Text) :=
  if name.getLast? = some ']' then (Text.cutAt? '[' name).map fun (name, index) =>
    (name, index.dropLast)
  else none

/-- The index of the element of a list that a number stands for; below zero it counts from the end.
-/
def keyAt (session : Session) (list : Text) (n : Int) : Text :=
  let count := match (session.elements list).getLast? with
    | some (key, _) => Text.natOfDigits key + 1
    | none => 0
  Text.ofNat (if n < 0 then n + count else n).toNat

/-- The index or name in front of the value of an element. -/
def keyed? : Text → Option (Text × Text)
  | '[' :: t =>
    (Text.cutAt? ']' t).bind fun (key, rest) =>
      if rest.head? = some '=' then some (key, rest.tail) else none
  | _ => none

/-- What is bound to a name and to the elements of a list of that name. -/
def boundTo (session : Session) (name : Text) : List (Text × Text) :=
  session.bindings.filter fun (own, _) => own = name || Text.startsWith (name ++ ['[']) own

/-- The session with nothing bound to a name or to the elements of a list of that name. -/
def unbound (session : Session) (name : Text) : Session :=
  { session with
    bindings := session.bindings.filter fun (own, _) =>
      own ≠ name && !Text.startsWith (name ++ ['[']) own }

def isOn (session : Session) (letter : Char) : Bool :=
  match letter with
  | 'e' => session.strict
  | 'u' => session.demanding
  | 'f' => session.plainPaths
  | 'n' => session.readsOnly
  | 'C' => session.careful
  | 'x' => session.traced
  | 'a' => session.exportsAll
  | '|' => session.failsAnywhere
  | letter => session.idleOptions.contains letter

def optionLetters (session : Session) : Text :=
  if session.large then
    "abefhkmnprtuvxBCEHPT".toList.filter (fun letter =>
      letter = 'h' || letter = 'B' || session.isOn letter) ++ if session.inline then ['c'] else []
  else "pubaCEVvxsnmiIfe".toList.filter session.isOn

/-- The names of the options that are on in the larger language, with colons between them. -/
def optionsListed (session : Session) : Text :=
  let named : List (Text × Char) := [("allexport", 'a'), ("errexit", 'e'), ("monitor", 'm'),
    ("noclobber", 'C'), ("noexec", 'n'), ("noglob", 'f'), ("nounset", 'u'), ("pipefail", '|'),
    ("verbose", 'v'), ("xtrace", 'x')]
  let always : List Text := ["braceexpand", "hashall", "interactive-comments"]
  let names := always ++ (named.filter fun (_, letter) => session.isOn letter).map (·.1)
  Text.join ":" (names.mergeSort fun a b => decide (¬ b < a))

def hasOption (session : Session) (name : Text) : Bool :=
  (session.optionsListed.splitOn ':').contains name

/-- The variables that the larger language sets by itself. -/
def ownVariables (session : Session) : List (Text × Text) := [("BASH", "/usr/bin/bash"),
  ("BASH_VERSION", "5.2.15(1)-release"), ("EUID", "0"), ("RANDOM", "16838"), ("SECONDS", "0"),
  ("UID", "0"), ("BASHPID", jobNumber session.self), ("BASH_SUBSHELL", Text.ofNat session.depth),
  ("SHLVL", "1"), ("HOSTTYPE", "x86_64"), ("OSTYPE", "linux-gnu"),
  ("MACHTYPE", "x86_64-pc-linux-gnu"), ("SHELLOPTS", session.optionsListed),
  ("BASHOPTS", Text.join ":" session.switches)]

def parameter? (session : Session) (name : Text) : Option Text :=
  match session.target name with
  | ['#'] => some (Text.ofNat session.arguments.length)
  | ['?'] => some (Text.ofNat session.status)
  | ['$'] => some (jobNumber session.process)
  | ['P', 'P', 'I', 'D'] => some ((session.parent.map jobNumber).getD "4241".toList)
  | ['!'] => session.lastJob.map jobNumber
  | ['-'] => some session.optionLetters
  | ['0'] => some session.name
  | ['@'] => some (Text.join " " session.arguments)
  | ['*'] => some (Text.join (session.separators.take 1) session.arguments)
  | name =>
    if name.all Char.isDigit then session.arguments[Text.natOfDigits name - 1]?
    else if session.large ∧ name = "LINENO".toList then some (Text.ofNat session.line)
    else (session.bindings.lookup name).or
      (if session.large then ((session.elements name).lookup ['0']).or (session.ownVariables.lookup name)
        else none)

def numberOf (session : Session) (name : Text) : Except Sum.Fault Int :=
  match Sum.ofValue ((session.parameter? name).getD []) with
  | .ok n => .ok n
  | .error fault => if session.large then .ok 0 else .error fault

/-- What becomes of a value that a variable is given. -/
def formed (session : Session) (name value : Text) : Text :=
  let name := name.takeWhile (· ≠ '[')
  let letters := (session.forms.filter (·.1 = name)).map (·.2)
  let value := if letters.contains 'i' then
      match Sum.evaluate true session.numberOf value with
      | .ok (n, _) => Text.ofInt n
      | .error _ => ['0']
    else value
  if letters.contains 'u' then value.map Char.toUpper
  else if letters.contains 'l' then value.map Char.toLower
  else value

/-- Gives a variable a value, unless it keeps the one it has. -/
def assign (session : Session) (name value : Text) : Session :=
  let name := session.target name
  if session.constants.contains name then session.stops (.constant name)
  else { session with
    bindings := (name, session.formed name value) :: session.bindings.filter (·.1 ≠ name)
    exported := if session.exportsAll then name :: session.exported else session.exported }

/-- Gives a list some values, behind those that it has or in the place of them. -/
def assignList (session : Session) (name : Text) (adds : Bool) (values : List Text) : Session :=
  let old := if adds then session.elements name else []
  let next := match old.getLast? with
    | some (key, _) => Text.natOfDigits key + 1
    | none => 0
  let start := { session.unbound name with
    bindings := old.map (fun (key, value) => (elementName name key, value)) ++
      (session.unbound name).bindings }
  (values.foldl (fun (session, next) value =>
    let (key, value) := (keyed? value).getD (Text.ofNat next, value)
    (session.assign (elementName name key) value, Text.natOfDigits key + 1)) (start, next)).1

/-- The answer to a question about a file. -/
def ask (session : Session) (question : Char) (path : Text) : Bool :=
  if question = 'L' ∨ question = 'h' then
    match FileTool.self? session.disk session.here path with
    | some (_, .link _) => true
    | _ => false
  else match FileTool.at? session.disk session.here path, question with
    | none, c => (Outside.at? path).any (·.answer c)
    | some (_, .directory _), c => "derwxsOG".toList.contains c
    | some (_, .file file), 's' => !file.contents.isEmpty
    | some (_, .file file), 'x' => file.executable
    | some _, c => "efrwOG".toList.contains c

/-- How the files at two paths compare: whether one is newer or older than the other, or whether
they are one file. -/
def compare (session : Session) (a sign b : Text) : Bool :=
  match FileTool.at? session.disk session.here a, FileTool.at? session.disk session.here b with
  | some (place, first), some (other, second) =>
    if sign = "-nt".toList then FileTool.timeOf second < FileTool.timeOf first
    else if sign = "-ot".toList then FileTool.timeOf first < FileTool.timeOf second
    else
      match first, second with
      | .file one, .file two => place = other || (one.group.isSome && one.group = two.group)
      | _, _ => place = other
  | some _, none => session.large && sign = "-nt".toList
  | none, some _ => session.large && sign = "-ot".toList
  | none, none => false

/-- Whoever answers questions about files. -/
def informant (session : Session) : Condition.Informant :=
  ⟨session.ask, session.compare, session.large⟩

def nullPath : Text := "/dev/null"

def leadLike? (session : Session) (stream other : Nat) : Option Session :=
  match session.channels.lookup other with
  | some channel => some (session.lead stream channel)
  | none =>
    let input? := if other = 0 then some session.input else session.others.lookup other
    input?.map fun input => { session with
      others := (stream, input) :: session.others.filter (·.1 ≠ stream) }

def close (session : Session) (stream : Nat) : Session :=
  let others := session.others.filter (·.1 ≠ stream)
  if stream = 0 then { session with input := .empty, fromFile := false, others }
  else { session with channels := session.channels.filter (·.1 ≠ stream), others }

def leadToFile? (session : Session) (stream : Nat) (path : Text) (append : Bool) : Option Session :=
  if path = nullPath ∨ path = "/dev/zero".toList then some (session.lead stream .nowhere)
  else if path = "/dev/full".toList then some (session.lead stream .full)
  else if path = "/dev/stdout".toList then session.leadLike? stream 1
  else if path = "/dev/stderr".toList then session.leadLike? stream 2
  else
    match session.disk.findWritable session.here path with
    | .error _ => none
    | .ok place =>
      let contents := if append then session.disk.contentsAt place else .empty
      some (({ session with disk := session.disk.store place contents }).lead stream (.file place))

/-- How much is ever read of what never ends. -/
def endlessSize : Nat := 1048576

/-- As much of an endless file of zeros as is ever read of it. -/
def endless : Text := List.replicate endlessSize '\x00'

def readFrom? (session : Session) (path : Text) : Option Session :=
  if path = nullPath then some { session with input := .empty, fromFile := false }
  else if path = "/dev/stdin".toList then some session
  else if path = "/dev/zero".toList then
    some { session with input := bytesOf endless, fromFile := false }
  else match session.disk.read session.here path with
    | .error _ => none
    | .ok bytes => some { session with input := bytes, fromFile := true }

/-- How the shell complains about a redirection that cannot be carried out. -/
def redirectComplaint (session : Session) (direction : Direction) (target : Text) : Text :=
  let reading := direction = .read
  let reason : Disk.Reason :=
    match if reading then (session.disk.read session.here target).map fun _ => ()
      else (session.disk.findWritable session.here target).map (fun _ => ())
        |>.mapError fun reason => ⟨reason, target⟩ with
    | .error refusal => refusal.reason
    | .ok _ => .missing
  let isThere := (FileTool.at? session.disk session.here target).isSome
  let reason : Disk.Reason :=
    if !reading && reason = .missing && isThere then .occupied else reason
  let words : Text := if reason ≠ .missing then reason.words
    else if reading then "No such file" else "Directory nonexistent"
  (if direction = .same then target ++ ": Bad file descriptor"
    else if session.large then target ++ ": " ++ reason.words
    else "cannot " ++ (if reading then "open " else "create ") ++ target ++ ": " ++ words)

/-- Carries out a redirection whose target is known. -/
def redirect? (session : Session) (stream : Nat) (direction : Direction) (target : Text) :
    Option Session :=
  match direction with
  | .read =>
    if stream = 0 then session.readFrom? target
    else (session.readFrom? target).map fun led =>
      { session with others := (stream, led.input) :: session.others.filter (·.1 ≠ stream) }
  | .write =>
    match FileTool.at? session.disk session.here target with
    | some (_, .file _) => if session.careful then none else session.leadToFile? stream target false
    | _ => session.leadToFile? stream target false
  | .renew => session.leadToFile? stream target false
  | .append => session.leadToFile? stream target true
  | .update =>
    (session.leadToFile? stream target true).bind fun led =>
      (led.readFrom? target).map fun reading => if stream = 0 then reading
        else { led with others := (stream, reading.input) :: led.others.filter (·.1 ≠ stream) }
  | .same =>
    if target = "-".toList then some (session.close stream)
    else if stream = 0 then
      if target = "0".toList then some session
      else (session.others.lookup (Text.natOfDigits target)).map fun input =>
        { session with input, fromFile := true }
    else session.leadLike? stream (Text.natOfDigits target)
  | .inner => some { session with input := Text.toBytes target, fromFile := false }

end Session

/-! ### Options of commands of the shell

The letters that stand in front of the operands of a command of the shell itself. Two hyphens end
them, and one hyphen alone is an operand. -/

/-- The letters of the options among some words and the operands behind them, or else a letter that
is not known. -/
def lettersOf (known : Text) : List Text → Except Char (Text × List Text)
  | [] => .ok ([], [])
  | word :: rest =>
    match word with
    | ['-', '-'] => .ok ([], rest)
    | '-' :: c :: others =>
      match (c :: others).find? (!known.contains ·) with
      | some letter => .error letter
      | none =>
        (lettersOf known rest).map fun (letters, operands) => (c :: others ++ letters, operands)
    | _ => .ok ([], word :: rest)

namespace Session

/-- Refuses an option of a command. The larger language tells how the command is called. -/
def refusesOption (session : Session) (command usage : Text) (letter : Char) : Session :=
  if session.large then
    (session.failsAs (command ++ ": -" ++ letter :: ": invalid option".toList) 2).fails
      (command ++ ": usage: " ++ usage) 2
  else session.failsAs (command ++ ": Illegal option -" ++ [letter]) 2

end Session

end Agenda.Shell
