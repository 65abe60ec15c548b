import Agenda.Shell.Expansion

/-!
# Scripts inside scripts, and in the background

A script is run in a process of its own to its end, and then what it wants to be run there. Signals
that have come meanwhile are met between commands. A command in the background is run at once up to
where it sleeps; the rest of it waits until enough time has passed. How a single command is run is
left open here.
-/

namespace Agenda.Shell

/-- The commands that are run one after the other. -/
def commandsOf : Command → List Command
  | .sequence first second => commandsOf first ++ commandsOf second
  | .nothing => []
  | command => [command]

/-- The length of time for which a command does nothing but sleep. -/
def sleepTime? : Command → Option Int
  | .simple _ [] [name, time] =>
    match literal? name, literal? time with
    | some name, some time =>
      if name = "sleep".toList then Clock.length? time else none
    | _, _ => none
  | _ => none

/-- The commands that a command in the background runs one after the other. -/
def backgroundCommands : Command → List Command
  | .subshell body => commandsOf body
  | command => commandsOf command

def isSleep (command : Command) : Bool := (sleepTime? command).isSome

/-- Whether a command sleeps somewhere inside, and no loop is left before its end. -/
def pauses : Command → Bool
  | .sequence first second | .both first second | .either first second =>
    pauses first || pauses second
  | .branch condition yes no => pauses condition || pauses yes || pauses no
  | .loop _ condition body => (pauses condition || pauses body) && !leaves body
  | .each _ _ body => pauses body && !leaves body
  | command => isSleep command
where
  leaves : Command → Bool
    | .sequence first second | .both first second | .either first second =>
      leaves first || leaves second
    | .branch condition yes no => leaves condition || leaves yes || leaves no
    | .choose _ _ => true
    | .simple _ _ (word :: _) => (literal? word).any ["break".toList, "continue".toList].contains
    | _ => false

namespace Session

/-- Whether a command calls a function that sleeps somewhere inside. -/
def callsPause (session : Session) : Command → Bool
  | .simple _ [] (word :: _) =>
    ((literal? word).bind fun name => session.functions.lookup name).any pauses
  | _ => false

/-- A session in which a script starts that is written in it, and that script as a command. -/
def opened (session : Session) (script : Text) : Command × Session :=
  let tokens := tokensOf session.large (session.isSwitched "extglob") script
  (.lines tokens,
    { session with lastLine := session.line + tokens.countP Token.endsLine, loops := 0 })

/-- A session behind a script that another command ran in it. -/
def closed (session before : Session) : Session :=
  { session with
    lastLine := before.lastLine, line := before.line, loops := before.loops
    caller := before.caller }

/-- The command in the background that wakes first, if it does so by a moment and is not older than
some number. -/
def dueJob? (session : Session) (least : Nat) (latest : Option Int) : Option Job :=
  let due := session.jobs.filter fun job => least ≤ job.number && latest.all (job.due ≤ ·)
  (due.mergeSort fun a b => decide (a.due < b.due ∨ (a.due = b.due ∧ a.number ≤ b.number))).head?

/-- What a command in the background sees when it goes on. -/
def forJob (session : Session) (job : Job) : Session :=
  { session with
    here := job.here, arguments := job.arguments, bindings := job.bindings
    functions := job.functions, channels := job.channels, input := .empty, loops := 0
    self := job.number, farewell := job.farewell, traps := job.traps, becomes := false
    status := 0
    disk := { session.disk with clock := max session.disk.clock job.due } }

/-- What is left of a command in the background that sleeps until a moment. -/
def jobOf (session : Session) (number starter : Nat) (due : Int) (rest : List Command) : Job where
  number := number
  starter := starter
  due := due
  rest := rest
  here := session.here
  arguments := session.arguments
  bindings := session.bindings
  functions := session.functions
  channels := session.channels
  farewell := session.farewell
  traps := session.traps

end Session

/-- What runs the commands of a script; `tested` says whether something depends on how a command
ends. -/
structure Runner where
  run : (tested : Bool) → Command → Session → Course × Session
  wordsOf : List Word → Session → List Text × Session

namespace Runner

variable (runner : Runner)

/-- Runs what a script wants to be run in the end; the status stays that of the script, unless the
end has one of its own. -/
def runFarewell (found : Course × Session) : Course × Session :=
  let (course, session) := found
  match course with
  | .killed signal => (.killed signal, session)
  | course =>
    if session.farewell.isEmpty then (course, session)
    else
      let (command, last) := { session with farewell := [] }.opened session.farewell
      match runner.run false command { last with readsOnly := false } with
      | (.goesOn, last) => (course, last.ended session.status)
      | ended => ended

/-- Runs a script, and then what it wants to be run in the end; the status is that of the script. -/
def runToEnd (script : Text) (session : Session) : Course × Session :=
  let (command, child) := session.opened script
  runner.runFarewell (runner.run false command { child with farewell := [] })

def runPart (tested : Bool) (command : Command) (session : Session) : Course × Session :=
  runner.runFarewell (runner.run tested command { session.inside with becomes := true })

/-- Runs a script by itself, with a name and arguments of its own. -/
def runScript (shellCall : Session.ShellCall) (session : Session) : Course × Session :=
  let child := (session.forCall shellCall).inside
  let child := { child with
    functions := [], own := none, lastJob := none, outcomes := [], calls := [], depth := 0
    process := child.self, parent := some session.self }
  let (course, after) := runner.runToEnd shellCall.script child
  let fallen := match course with
    | .killed signal => some signal
    | _ => none
  (.goesOn, {
    (session.afterPart after).ended (statusAfter course after) with
      input := after.input, fallen })

/-- What a signal does to the script: it runs what was noted for it, or goes on, or ends. -/
def meetSignal (signal : Nat) (session : Session) : Course × Session :=
  match if signal = 9 then none else session.traps.lookup signal with
  | some script =>
    let (command, child) := session.opened script
    let (course, after) := runner.run true command child
    let after := after.closed session
    (course, if course = .goesOn then after.ended session.status else after)
  | none =>
    if Signal.isHarmless signal then (.goesOn, session) else (.killed signal, session)

def meetSignals (found : Course × Session) : Course × Session :=
  let (course, session) := found
  (session.arrived.foldl (fun (course, session) signal =>
    match course with
    | .goesOn => runner.meetSignal signal session
    | course => (course, session)) (course, session.met))

/-- Ends the script if a command that nothing depends on has failed and that is not allowed; before
that, what was noted for commands that fail is run outside of functions. -/
def conclude (tested : Bool) (found : Course × Session) : Course × Session :=
  let (course, session) := found
  match course with
  | .goesOn =>
    if tested || session.status = 0 then (.goesOn, session)
    else
      let noted := (session.traps.lookup Signal.failure).isSome && session.own.isNone
      match if noted then runner.meetSignal Signal.failure session else (.goesOn, session) with
      | (.goesOn, session) => (if session.strict then .exits else .goesOn, session)
      | ended => ended
  | course => (course, session)

/-- Notes how a command in the background has ended. -/
def endJob (found : Course × Session) : Session :=
  let (course, session) := runner.runFarewell found
  let felled := match course with
    | .killed _ => session.self :: session.felled
    | _ => session.felled
  { session with
    outcomes := (session.self, statusAfter course session) :: session.outcomes, felled }

/-- Takes the first step of a command that sleeps somewhere inside: what is left of it is commands
that are run one after the other. -/
def unroll (command : Command) (session : Session) : Course × List Command × Session :=
  let decided (condition yes no : Command) : Course × List Command × Session :=
    if pauses condition then
      (.goesOn, commandsOf condition ++ [.branch .nothing yes no], session)
    else
      let (course, session) := runner.run true condition session
      if session.status = 0 then (course, commandsOf yes, session)
      else (course, commandsOf no, session.ended 0)
  match command with
  | .both first second =>
    if pauses first then (.goesOn, commandsOf first ++ [.both .nothing second], session)
    else
      let (course, session) := runner.run true first session
      (course, if session.status = 0 then commandsOf second else [], session)
  | .either first second =>
    if pauses first then (.goesOn, commandsOf first ++ [.either .nothing second], session)
    else
      let (course, session) := runner.run true first session
      (course, if session.status = 0 then [] else commandsOf second, session)
  | .branch condition yes no => decided condition yes no
  | .loop endsOn condition body =>
    let again := Command.sequence body command
    if endsOn then decided condition .nothing again else decided condition again .nothing
  | .each name words body =>
    let (values, session) := match words with
      | some words => runner.wordsOf words session
      | none => (session.arguments, session)
    (.goesOn, values.flatMap fun value =>
      .simple 0 [(name, [.plain true value])] [] :: commandsOf body, session)
  | .simple _ _ (word :: words) =>
    let (arguments, session) := runner.wordsOf words session
    match (literal? word).bind fun name => session.functions.lookup name with
    | some body => (.goesOn, commandsOf body, { session with arguments })
    | none => (.goesOn, [], session)
  | command => (.goesOn, commandsOf command, session)

/-- Runs a command in the background up to where it sleeps. Its process becomes the program that it
calls last. -/
def runJob : Nat → (starter : Nat) → List Command → Session → Session
  | 0, _, _, session => session
  | _ + 1, _, [], session => runner.endJob (.goesOn, session)
  | fuel + 1, starter, command :: rest, session =>
    match sleepTime? command with
    | some time =>
      let job :=
        (session.ended 0).jobOf session.self starter (session.disk.clock + time) rest
      { session with jobs := job :: session.jobs }
    | none =>
      if pauses command || (rest.isEmpty && session.callsPause command) then
        match runner.unroll command session with
        | (.goesOn, commands, session) => runJob fuel starter (commands ++ rest) session
        | (course, _, session) => runner.endJob (course, session)
      else
        match runner.run false command { session with becomes := rest.isEmpty } with
        | (.goesOn, session) => runJob fuel starter rest session
        | ended => runner.endJob ended

/-- Lets the commands in the background go on, from some number on, that wake by a moment. -/
def runJobs : Nat → (least : Nat) → (latest : Option Int) → Session → Session
  | 0, _, _, session => session
  | fuel + 1, least, latest, session =>
    match session.dueJob? least latest with
    | none => session
    | some job =>
      let session := { session with jobs := session.jobs.filter (·.number ≠ job.number) }
      let after := match runner.meetSignals (.goesOn, session.forJob job) with
        | (.goesOn, woken) => runner.runJob fuel job.starter job.rest woken
        | ended => runner.endJob ended
      runJobs fuel least latest { (session.afterPart after).ended session.status with
        outcomes := after.outcomes, felled := after.felled }

/-- Waits for commands in the background; for all of them, if none is named. -/
def waitFor : Nat → List Text → Session → Session
  | 0, _, session => session
  | fuel + 1, processes, session =>
    if session.awaits processes ∧ session.arrived.isEmpty then
      match session.dueJob? 0 none with
      | none => session
      | some job =>
        match session.dueLimit? job.due with
        | some limit => waitFor fuel processes (session.strike limit)
        | none => waitFor fuel processes (runner.runJobs fuel 0 (some job.due) session)
    else session

/-- Lets time pass up to a moment while a tool is at work: commands in the background go on, and
limits of time run out, one of which may end the tool. -/
def passTime : Nat → (latest : Int) → Session → Session
  | 0, _, session => session
  | fuel + 1, latest, session =>
    match session.dueLimit? latest with
    | none =>
      let session := runner.runJobs fuel 0 (some latest) session
      { session with disk := { session.disk with clock := max session.disk.clock latest } }
    | some limit =>
      let struck := (runner.runJobs fuel 0 (some limit.moment) session).strike limit
      let isIgnored : Bool := limit.signal = 0 ∨
        (limit.signal ≠ 9 ∧ session.traps.lookup limit.signal = some [])
      if isIgnored then passTime fuel latest struck
      else { struck with fallen := some limit.signal }.ended (128 + limit.signal)

/-- What runs the scripts inside the words of a command. -/
def inner (fuel : Nat) : Inner where
  run := runner.runToEnd
  runJobs least session := runner.runJobs fuel least none session

end Runner

end Agenda.Shell
