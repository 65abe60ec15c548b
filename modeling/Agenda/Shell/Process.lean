import Agenda.Shell.Session

/-!
# Signals and processes

The signals that processes send to one another, by their numbers and their names, and what becomes
of a process that has made no arrangements for one.

A script runs some of its commands in processes of their own. A signal that a process sends to
itself is met at once; one that it sends to the process that has started it is on its way until that
one runs its next command.
-/

namespace Agenda.Shell.Signal

def names : List Text := [
  "HUP", "INT", "QUIT", "ILL", "TRAP", "ABRT", "BUS", "FPE", "KILL", "USR1", "SEGV", "USR2",
  "PIPE", "ALRM", "TERM", "STKFLT", "CHLD", "CONT", "STOP", "TSTP", "TTIN", "TTOU", "URG", "XCPU",
  "XFSZ", "VTALRM", "PROF", "WINCH", "IO", "PWR", "SYS"]

/-- What is said about a process that a signal has ended. -/
def words (number : Nat) : Text :=
  (([
    "Hangup", "Interrupt", "Quit", "Illegal instruction", "Trace/breakpoint trap", "Aborted",
    "Bus error", "Floating point exception", "Killed", "User defined signal 1",
    "Segmentation fault", "User defined signal 2", "Broken pipe", "Alarm clock", "Terminated",
    "Stack fault", "Child exited", "Continued", "Stopped (signal)", "Stopped",
    "Stopped (tty input)", "Stopped (tty output)", "Urgent I/O condition",
    "CPU time limit exceeded", "File size limit exceeded", "Virtual timer expired",
    "Profiling timer expired", "Window changed", "I/O possible", "Power failure",
    "Bad system call"] : List String).map String.toList).getD (number - 1)
    ("Real-time signal " ++ Text.ofNat (number - 34))

def count : Nat := 65

/-- What stands for a command that fails where scripts are noted for signals. -/
def failure : Nat := count

/-- The name of a signal; zero is the end of a script. -/
def name (number : Nat) : Text :=
  if number = 0 then "EXIT" else if number = failure then "ERR"
  else names.getD (number - 1) (Text.ofNat number)

/-- The signal that a word names or numbers. Upper and lower case are the same; `long` allows the
beginning `SIG`, and a command that fails. -/
def number? (long : Bool) (word : Text) : Option Nat :=
  let upper := word.map Char.toUpper
  let upper := if long && Text.startsWith "SIG" upper then upper.drop 3 else upper
  if !word.isEmpty && word.all Char.isDigit then
    let number := Text.natOfDigits word
    if number < count then some number else none
  else if upper = "EXIT".toList then some 0
  else if long ∧ upper = "ERR".toList then some failure
  else (names.idxOf? upper).map (· + 1)

/-- Whether a process goes on after a signal that it has made no arrangements for. -/
def isHarmless (number : Nat) : Bool :=
  [name number].any fun name =>
    [("CHLD" : Text), "CONT", "URG", "WINCH", "STOP", "TSTP", "TTIN", "TTOU"].contains name

def listed : Text := ((List.range' 1 (count - 1)).map fun number => name number ++ ['\n']).flatten

/-- The full name of a signal; those behind the named ones count from the first or last of them. -/
def fullName (number : Nat) : Text :=
  if number < 34 then "SIG" ++ name number
  else if number = 34 then "SIGRTMIN"
  else if number < 50 then "SIGRTMIN+" ++ Text.ofNat (number - 34)
  else if number < 64 then "SIGRTMAX-" ++ Text.ofNat (64 - number)
  else "SIGRTMAX"

def numbered : Text :=
  let numbers := (List.range' 1 (count - 1)).filter fun number => number ≠ 32 ∧ number ≠ 33
  (numbers.zipIdx.map fun (number, index) =>
    let digits := Text.ofNat number
    List.replicate (2 - digits.length) ' ' ++ digits ++ ") " ++ fullName number ++
      [if index % 5 = 4 ∨ index + 1 = numbers.length then '\n' else '\t']).flatten

example : number? false "term".toList = some 15 ∧ number? false "SIGTERM".toList = none ∧
    name 31 = "SYS".toList := by decide

end Agenda.Shell.Signal

namespace Agenda.Shell.Session

/-- The signals that have come for the process that runs the command at hand. -/
def arrived (session : Session) : List Nat :=
  session.signals.filterMap fun (process, signal) =>
    if process = session.self then some signal else none

/-- The session without the signals that have come for its process. -/
def met (session : Session) : Session :=
  { session with signals := session.signals.filter fun (process, _) => process ≠ session.self }

def endsOn (session : Session) (signal : Nat) : Bool :=
  signal = 9 || ((session.traps.lookup signal).isNone && !Signal.isHarmless signal)

/-- Whether a signal has come that ends the process. -/
def isStruck (session : Session) : Bool := session.arrived.any session.endsOn

/-- Says that a process was ended by a signal. About two of them nothing is said. -/
def mourns (session : Session) (channel : Option Channel) (signal : Nat) : Session :=
  if session.large ∨ signal = 2 ∨ signal = 13 then session
  else session.printTo channel (Signal.words signal ++ ['\n'])

/-- The session behind a part of it that was run by itself and may have been ended by a signal. -/
def behindPart (session : Session) (course : Course) : Session :=
  match course with
  | .killed signal => (session.mourns (session.channels.lookup 2) signal).ended (128 + signal)
  | _ => session

/-- What is wrong with the arguments of a `kill`. -/
def killUsage : Text := "Usage: kill [-s sigspec | -signum | -sigspec] [pid | job]... or\n" ++
  "kill -l [exitstatus]"

/-- The signal and the processes of a `kill`, or what is wrong with its arguments. -/
def killArguments (session : Session) (arguments : List Text) : Except Text (Nat × List Text) :=
  let number? := Signal.number? session.large
  match arguments with
  | ['-', 's'] :: name :: rest =>
    match number? name with
    | some signal => .ok (signal, rest)
    | none => .error ("kill: invalid signal number or name: " ++ name)
  | ['-', '-'] :: rest => .ok (15, rest)
  | ('-' :: name) :: rest =>
    match number? name with
    | some signal => .ok (signal, rest)
    | none => .error ("kill: Illegal option -" ++ name.take 1)
  | rest => .ok (15, rest)

/-- A signal for a command in the background that sleeps: it may mean nothing to it, or be on its
way to it, or end it. -/
def signalToJob (session : Session) (signal : Nat) (job : Job) : Session :=
  let isNoted := (job.traps.lookup signal).isSome
  if signal = 0 ∨ (Signal.isHarmless signal && !isNoted) then session
  else if isNoted ∧ signal ≠ 9 then
    { session with signals := session.signals ++ [(job.number, signal)] }
  else { session with
    jobs := session.jobs.filter (·.number ≠ job.number)
    felled := job.number :: session.felled
    outcomes := (job.number, 128 + signal) :: session.outcomes }

/-- Sends a signal to one process: the script itself, one that has started it, or a command in the
background. -/
def signalTo (session : Session) (signal : Nat) (process : Text) : Course × Session :=
  let on (process : Nat) : Session :=
    { session with signals := session.signals ++ [(process, signal)] }
  let numbered (numbers : List Nat) : Option Nat :=
    numbers.find? fun number => jobNumber number = process
  if process = jobNumber session.self ∨ process = ['0'] then
    if signal = 0 then (.goesOn, session) else (.killed signal, session)
  else match numbered (session.process :: session.parent.toList) with
    | some number => (.goesOn, if signal = 0 then session else on number)
    | none =>
      match session.jobs.find? fun job => jobNumber job.number = process with
      | some job => (.goesOn, session.signalToJob signal job)
      | none =>
        if (numbered (session.outcomes.map (·.1))).any fun number => !session.gone.contains number
        then (.goesOn, session)
        else if !process.isEmpty && process.all Char.isDigit then
          (.goesOn, session.failsAs "kill: No such process\n" 1)
        else (.goesOn, session.failsAs ("kill: Illegal number: " ++ process) 2)

/-- The first limit of time that runs out by a moment. -/
def dueLimit? (session : Session) (latest : Int) : Option Deadline :=
  let due := session.limits.filter (·.moment ≤ latest)
  (due.mergeSort fun a b => decide (a.moment ≤ b.moment)).head?

/-- Lets a limit of time run out: its signal is on its way to all processes that it is for. -/
def strike (session : Session) (limit : Deadline) : Session :=
  let others := session.limits.filter (·.first ≠ limit.first)
  let later := limit.patience.map fun length =>
    { limit with moment := limit.moment + length, signal := 9, patience := none }
  let clock := max session.disk.clock limit.moment
  let session := { session with
    disk := { session.disk with clock }
    limits := later.toList ++ others }
  let session := match limit.told with
    | some (channel, command) =>
      session.printTo channel (raw ("timeout: sending signal " ++ Signal.name limit.signal ++
        " to command ‘" ++ command ++ "’\n"))
    | none => session
  let numbers := List.range' limit.first (session.jobCount + 1 - limit.first)
  if limit.signal = 0 then session
  else numbers.foldl (fun session number =>
    match session.jobs.find? (·.number = number) with
    | some job => session.signalToJob limit.signal job
    | none => { session with signals := session.signals ++ [(number, limit.signal)] }) session

/-- Sends a signal to processes, or lists the names of signals. -/
def kill (session : Session) (arguments : List Text) : Course × Session :=
  match arguments with
  | [['-', 'l']] =>
    (.goesOn, session.utters (if session.large then Signal.numbered else "0\n" ++ Signal.listed))
  | [['-', 'l'], status] =>
    let number := Text.natOfDigits status
    let number := if 128 < number then number - 128 else number
    if !status.all Char.isDigit then
      match if session.large then Signal.number? true status else none with
      | some number => (.goesOn, session.utters (Text.ofNat number ++ ['\n']))
      | none => (.goesOn, session.failsAs ("kill: Illegal number: " ++ status) 2)
    else if 0 < number ∧ number < Signal.count then
      (.goesOn, session.utters (Signal.name number ++ ['\n']))
    else
      (.goesOn, session.failsAs ("kill: invalid signal number or exit status: " ++ status) 2)
  | arguments =>
    match session.killArguments arguments with
    | .error words => (.goesOn, session.failsAs words 2)
    | .ok (_, []) => (.goesOn, session.failsAs ("kill: " ++ killUsage) 2)
    | .ok (signal, processes) =>
      processes.foldl (fun (course, session) process =>
        match course with
        | .goesOn => session.signalTo signal process
        | course => (course, session)) (.goesOn, session.ended 0)

/-- Whether a command in the background still sleeps that is waited for; all of this process are, if
none is named. -/
def awaits (session : Session) (processes : List Text) : Bool :=
  session.jobs.any fun job =>
    if processes.isEmpty then job.starter = session.self
    else processes.contains (jobNumber job.number)

/-- The session with nothing left of the processes in the background that have ended. -/
def buried (session : Session) : Session := { session with gone := session.outcomes.map (·.1) }

/-- How a `wait` for processes ends that have all ended. -/
def waited (session : Session) (processes : List Text) : Session :=
  match processes.find? fun process => !process.all Char.isDigit || process.isEmpty with
  | some process => session.failsAs ("wait: Illegal number: " ++ process) 2
  | none =>
    match processes.getLast? with
    | none => session.ended 0
    | some process =>
      match session.outcomes.find? fun (number, _) => jobNumber number = process with
      | some (number, status) =>
        let session := if session.felled.contains number then
            { session.mourns (session.channels.lookup 2) (status - 128) with
              felled := session.felled.filter (· ≠ number) }
          else session
        session.ended status
      | none => session.ended 127

/-- What is told about a command in the background in the list of all: its place, whether it is the
last one or the last but one, and how it ended if it has. -/
def listedJob (session : Session) (sign : Char) (place number : Nat) : Text :=
  let state : Text := match session.outcomes.lookup number with
    | none => "Running"
    | some 0 => "Done"
    | some status =>
      if session.felled.contains number then Signal.words (status - 128)
      else "Done(" ++ Text.ofNat status ++ ")"
  let line := "[" ++ Text.ofNat place ++ "] " ++ [sign, ' '] ++ state
  line ++ List.replicate (33 - line.length) ' ' ++ ['\n']

/-- Lists the commands in the background. Those that have ended are listed once. -/
def listsJobs (session : Session) : Session :=
  let lines := session.listed.zipIdx.map fun ((place, number), index) =>
    session.listedJob (if index = 0 then '+' else if index = 1 then '-' else ' ') place number
  { session.utters lines.flatten with
    listed := session.listed.filter fun (_, number) => (session.outcomes.lookup number).isNone }

/-- The session with a command in the background listed, at the first place that is free. -/
def lists (session : Session) (number : Nat) : Session :=
  let places := session.listed.map (·.1)
  let place := ((List.range' 1 (places.length + 1)).find? (!places.contains ·)).getD 1
  { session with listed := (place, number) :: session.listed }

end Agenda.Shell.Session
