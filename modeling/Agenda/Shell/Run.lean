import Agenda.Shell.Background
import Agenda.Shell.Find.Search
import Agenda.Shell.Records.Tool

/-!
# Running scripts

What a script does, command by command. Every call is given some fuel, which is the depth to which
commands may call others; a script that needs more is cut short. The loops, and the tools that call
commands, are given what runs these.
-/

namespace Agenda.Shell

/-- Whether a command calls one program, perhaps behind others. -/
def isCall : Command → Bool
  | .simple _ _ _ | .redirected (.simple _ _ _) _ | .sequence _ _ => true
  | _ => false

/-- What a course means behind a loop: one of the loops that were to be left has been. -/
def leaveLoop : Course → Course
  | .breaks loops => if loops ≤ 1 then .goesOn else .breaks (loops - 1)
  | .continues loops => if loops ≤ 1 then .goesOn else .continues (loops - 1)
  | course => course

/-- Whether a loop goes on after a pass through its body. -/
def loopGoesOn : Course → Bool
  | .goesOn => true
  | .continues loops => loops ≤ 1
  | _ => false

def isOutput (word : Word) : Bool := word.any fun
  | .output _ _ => true
  | _ => false

/-- The stream that a command reads instead of its input. -/
def sharedStream? (redirects : List Redirect) : Option Nat :=
  redirects.findSome? fun redirect =>
    if redirect.stream = 0 ∧ redirect.direction = .same then
      (literal? redirect.target).bind fun t =>
        if t.all Char.isDigit ∧ t ≠ ['0'] then some (Text.natOfDigits t) else none
    else none

namespace Session

/-- The variables of a session with some names bound as they were before. -/
def restore (session before : Session) (names : List Text) : Session :=
  { session with
    bindings := before.bindings.filter (fun (name, _) => names.contains name) ++
      session.bindings.filter fun (name, _) => !names.contains name }

/-- A session behind a command with redirections, which started with `led`: the streams lead again
where they led before. -/
def behindRedirects (after before led : Session) (redirects : List Redirect) : Session :=
  let input := if led.input.data = before.input.data then after.input else before.input
  let after := match sharedStream? redirects with
    | some stream => after.readOn stream after.input
    | none => after
  { after with channels := before.channels, input, fromFile := before.fromFile }

/-- A session in which a command is called that another one has asked for. -/
def onDetour (session : Session) (detour : Detour) : Except Text Session :=
  let known := (if detour.cleared then [] else session.environment).filter fun (name, _) =>
    !detour.removed.contains name
  let environment := detour.assignments.foldl (fun known (name, value) =>
    if (known.lookup name).isSome then
      known.map fun (own, old) => (own, if own = name then value else old)
    else known ++ [(name, value)]) known
  let number := session.jobCount + 1
  let deadline? := detour.limit.map fun limit =>
    { first := number
      moment := session.disk.clock + limit.length
      signal := limit.signal
      patience := limit.patience
      told := if limit.shows then
          some (session.channels.lookup 2, detour.command.headD [])
        else none : Deadline }
  let inner := { session with
    bindings := environment ++ session.bindings.filter fun (name, _) =>
      (environment.lookup name).isNone
    exported := environment.map (·.1)
    told := some (environment.map (·.1))
    jobCount := if deadline?.isSome then number else session.jobCount
    limits := deadline?.toList ++ session.limits }
  match detour.directory with
  | none => .ok inner
  | some path =>
    match FileTool.at? session.disk session.here path with
    | some (place, .directory _) => .ok { inner with here := place }
    | found =>
      let reason : Disk.Reason := if found.isSome then .notDirectory
        else FileTool.reasonAt session.disk session.here path
      .error ("cannot change directory to " ++ FileTool.shown path ++ ": " ++ reason.words)

/-- A session behind a command that another one has asked for. If its time has run out, the status
says so, unless the command has been ended for good and the one that asked for it as well. -/
def behindDetour (session : Session) (detour : Detour) (inner after : Session) : Session :=
  let back := { session.afterPart after with
    input := after.input, others := after.others, fallen := after.fallen }
  match detour.limit with
  | none => back
  | some limit =>
    let own := after.limits.find? (·.first = inner.jobCount)
    let back := { back with limits := after.limits.filter (·.first ≠ inner.jobCount) }
    let isOver := match own with
      | some deadline => deadline.patience.isNone && limit.patience.isSome
      | none => true
    let isKilled := limit.signal = 9 || (own.isNone && limit.patience.isSome)
    if !isOver then back
    else if isKilled then { back with fallen := some 9 }.ended 137
    else { back with fallen := none }.ended (if limit.preserves then after.status else 124)

end Session

/-! ### Loops and choices -/

namespace Runner

variable (runner : Runner)

def runEach (name : Text) (body : Command) : List Text → Session → Course × Session
  | [], session => (.goesOn, session)
  | value :: values, session =>
    let (course, session) := runner.run false body (session.assign name value)
    if loopGoesOn course then runEach name body values session
    else (course, session)

/-- Runs the body of a loop as long as its condition asks for it; `status` is that of the last pass.
-/
def runWhile : Nat → Bool → Bool → Command → Command → Nat → Session → Course × Session
  | 0, _, _, _, _, _, session => (.goesOn, session)
  | fuel + 1, tested, endsOn, condition, body, status, session =>
    let session := if session.limits.isEmpty then session
      else { (runner.passTime fuel (session.disk.clock + 1) session).ended session.status with
        fallen := none }
    match runner.run true condition session with
    | (.goesOn, session) =>
      if (session.status = 0) = endsOn then (.goesOn, session.ended status)
      else
        let (course, session) := runner.run tested body session
        if loopGoesOn course then
          runWhile fuel tested endsOn condition body session.status session
        else (course, session)
    | (course, session) =>
      if loopGoesOn course then runWhile fuel tested endsOn condition body status session
      else (course, session)

/-- Runs the body of a loop as long as an expression is not zero, with a step behind each pass. -/
def runCounting : Nat → (condition step : Text) → Command → Session → Course × Session
  | 0, _, _, _, session => (.goesOn, session)
  | fuel + 1, condition, step, body, session =>
    let calculated (t : Text) (session : Session) : Option Int × Session :=
      let (glyphs, session) := (runner.inner fuel).glyphsOf fuel (expressionWord true t) session
      session.calculate (Glyph.text glyphs)
    let (n, session) := if condition.all Text.isBlank then (some 1, session)
      else calculated condition session
    if n.getD 0 = 0 then (.goesOn, session)
    else
      let (course, session) := runner.run false body session
      if loopGoesOn course then runCounting fuel condition step body (calculated step session).2
      else (course, session)

/-- Runs the first arm of a choice that has a pattern for a value, or the next one if the arm before
says so; and then others if that one says so. The status is zero if there is none. -/
def runArms (fuel : Nat) (value : Text) :
    (isNext : Bool) → List (List Word × Command × ArmEnd) → Session → Course × Session
  | _, [], session => (.goesOn, session)
  | isNext, (patterns, body, ending) :: arms, session =>
    let (fits, session) := patterns.foldl (fun (fits, session) pattern =>
      let (glyphs, session) :=
        (runner.inner fuel).glyphsOf fuel (session.atHome false pattern) session
      (fits || session.fits false glyphs value, session))
      (isNext, session)
    if fits then
      match runner.run false body session, ending with
      | (.goesOn, session), .fallThrough => runArms fuel value true arms session
      | (.goesOn, session), .goOn => runArms fuel value false arms session
      | found, _ => found
    else runArms fuel value false arms session

end Runner

/-! ### Tools that call commands -/

section

variable (execute : Program → Text → List Text → Session → Course × Session)

/-- Calls a command as another one asks for. -/
def takeDetour (tool : Text) (detour : Except Misuse Detour) (session : Session) : Session :=
  match detour with
  | .error misuse => session.misused tool misuse (Detour.misuseStatus tool)
  | .ok detour =>
    match session.onDetour detour with
    | .error words => session.fails (tool ++ ": " ++ words) (Detour.misuseStatus tool)
    | .ok inner =>
      match detour.command with
      | [] =>
        session.utters (if tool = "env".toList then
          raw (inner.environment.flatMap fun (name, value) =>
            name ++ '=' :: value ++ [detour.ending])
          else "0\n")
      | name :: arguments =>
        match inner.program inner.searchedByTools name with
        | .error reason => session.refusesCall tool name reason
        | .ok program =>
          let (_, after) := execute program name arguments inner
          session.behindDetour detour inner after

/-- Does one after the other what is to be done for what was read; a command that cannot be called,
or that asks for it, ends all. -/
def feedAll (feed : Feed) : List Feed.Step → Session → Session
  | [], session => session
  | .fail words :: rest, session =>
    (feedAll feed rest (session.complains ("xargs: " ++ words))).ended 1
  | .call command :: rest, session =>
    let session := if feed.shows then session.print 2 (raw (Feed.shown command ++ "\n"))
      else session
    let name := command.headD []
    match session.program session.searchedByTools name with
    | .error reason => session.refusesCall "xargs" name reason
    | .ok program =>
      let (_, after) := execute program name command.tail session
      match after.fallen with
      | some signal =>
        { after with fallen := none }.fails ("xargs: " ++ name ++ ": terminated by signal " ++
          Text.ofNat signal) 125
      | none =>
        if after.status = 255 then
          after.fails ("xargs: " ++ name ++ ": exited with status 255; aborting") 124
        else
          feedAll feed rest
            (after.ended (if after.status = 0 then session.status else 123))

/-- Calls commands for what is read. -/
def feed (arguments : List Text) (session : Session) : Session :=
  match Feed.read arguments with
  | .error misuse => session.misused "xargs" misuse 1
  | .ok (feed, warnings) =>
    let session := warnings.foldl (fun session words => session.complains ("xargs: " ++ words))
      (session.ended 0)
    match feed.source with
    | none =>
      feedAll execute feed (feed.steps (rawOf session.input)) { session with input := .empty }
    | some path =>
      match session.rawAt? path with
      | some t => feedAll execute feed (feed.steps t) session
      | none =>
        let reason := FileTool.reasonAt session.disk session.here path
        session.fails ("xargs: Cannot open input file " ++ Misuse.marked path ++ ": " ++
          reason.words) 1

/-- Calls a command on behalf of a search. -/
def callForFind : List Text → Session → Session
  | [], session => session.ended 0
  | name :: arguments, session =>
    match session.program session.searchedByTools name with
    | .error reason => session.refusesCall "find" name reason
    | .ok program =>
      let (_, after) := execute program name arguments session
      match after.fallen with
      | some signal =>
        { after with fallen := none }.complains ("find: ‘" ++ name ++ "’ terminated by signal " ++
          Text.ofNat signal)
      | none => after

end

/-! ### Commands -/

mutual

/-- What runs the commands that a command calls. -/
def runner : Nat → Runner
  | 0 => ⟨fun _ _ session => (.goesOn, session), fun _ session => ([], session)⟩
  | fuel + 1 =>
    { run := run fuel
      wordsOf := fun words session => ((runner fuel).inner fuel).wordsOf fuel words session }

/-- Calls a command by its name: a function, a command of the shell, or a program. `tested` says
whether something depends on how it ends. -/
def call : Nat → Bool → Text → List Text → Session → Course × Session
  | 0, _, _, _, session => (.goesOn, session)
  | fuel + 1, tested, name, arguments, session =>
    match session.functions.lookup name with
    | some body =>
      let (course, after) := run fuel tested body { session with
        arguments, own := some [], calls := (name, session.line) :: session.calls }
      let after := { after.giveBack session with
        arguments := session.arguments, own := session.own, calls := session.calls }
      match course with
      | .returns => (.goesOn, after)
      | course => (course, after)
    | none => callCommand fuel tested name arguments session

def callCommand : Nat → Bool → Text → List Text → Session → Course × Session
  | 0, _, _, _, session => (.goesOn, session)
  | fuel + 1, tested, name, arguments, session =>
    if Builtin.has session.large name then callBuiltin fuel tested name arguments session
    else match session.program session.searched name with
      | .ok program => execute fuel program name arguments session
      | .error reason => (.goesOn, session.refusesCommand name reason)

def callBuiltin : Nat → Bool → Text → List Text → Session → Course × Session
  | 0, _, _, _, session => (.goesOn, session)
  | fuel + 1, tested, name, arguments, session =>
    let runner := runner fuel
    match Builtin.find? session.large name with
    | none => callRunner fuel tested name arguments session
    | some act =>
      let isWait : Bool := name = "wait".toList
      let waited := if isWait then runner.waitFor fuel arguments session else session
      match if isWait then waited.arrived.head? else none, act waited arguments with
      | some signal, _ => (.goesOn, waited.buried.ended (128 + signal))
      | none, (.killed signal, after) => runner.meetSignal signal (after.ended 0)
      | none, (course, after) =>
        let after := after.written true name
        let after := if isWait then after.buried else after
        if after.stopped ∧ !session.stopped ∧
            (session.large || !Session.specialBuiltins.contains name) then
          let after := { after with stopped := false, endsLine := false }
          (course, after.ended (if session.large then 1 else 2))
        else (course, after)

def callRunner : Nat → Bool → Text → List Text → Session → Course × Session
  | 0, _, _, _, session => (.goesOn, session)
  | fuel + 1, tested, name, arguments, session =>
    let runInside (caller script : Text) : Course × Session :=
      let (command, child) := { session.ended 0 with line := 1 }.opened script
      let (course, after) := run fuel tested command { child with caller, loops := session.loops }
      if session.large ∧ after.stopped ∧ after.endsLine ∧ course = .exits then
        (.goesOn, { after.closed session with stopped := false, endsLine := false })
      else (course, after.closed session)
    if name = "eval".toList then runInside "eval" (Text.join " " arguments)
    else if name = "type".toList then (.goesOn, session.tellsKinds arguments)
    else if name = "hash".toList then (.goesOn, session.findsPrograms arguments)
    else if name = "exec".toList then becomeProgram fuel arguments session
    else if name = "command".toList then callPlainly fuel tested arguments session
    else if name = "let".toList then
      let (n, session) := arguments.foldl (fun (_, session) expression =>
        session.calculate expression) (none, session)
      (.goesOn, session.ended (if n.getD 0 = 0 then 1 else 0))
    else if name = "builtin".toList then
      match arguments with
      | [] => (.goesOn, session.ended 0)
      | name :: arguments =>
        if Builtin.has true name then callBuiltin fuel tested name arguments session
        else (.goesOn, session.failsAs ("builtin: " ++ name ++ ": not a shell builtin") 1)
    else
      let path := arguments.headD []
      match session.sourced path with
      | .ok (path, file) =>
        match runInside path (Session.scriptOf file) with
        | (.returns, session) => (.goesOn, session)
        | found => found
      | .error session => (if session.status = 2 ∧ !session.large then .exits else .goesOn, session)

def becomeProgram : Nat → List Text → Session → Course × Session
  | 0, _, session => (.goesOn, session)
  | _ + 1, [], session => (.goesOn, session.ended 0)
  | fuel + 1, name :: arguments, session =>
    match session.program session.searched name with
    | .error reason => (.exits, { session with caller := "exec" }.refusesCommand name reason)
    | .ok program =>
      let (course, after) := execute fuel program name arguments session
      match course, after.fallen with
      | .killed signal, _ | _, some signal => (.killed signal, after)
      | _, none => (.exits, after)

/-- Calls a command that is no function, or tells what it is. -/
def callPlainly : Nat → Bool → List Text → Session → Course × Session
  | 0, _, _, session => (.goesOn, session)
  | fuel + 1, tested, arguments, session =>
    match { plain := "pvV", leading := true : Known }.split arguments with
    | .error misuse =>
      let letter : Char := match misuse with
        | .unknownLetter letter => letter
        | _ => '-'
      (.goesOn, session.failsAs ("command: Illegal option -" ++ [letter]) 2)
    | .ok (_, []) => (.goesOn, session.ended 0)
    | .ok (options, name :: arguments) =>
      if options.has 'V' then (.goesOn, session.tellsKinds [name])
      else if options.has 'v' then (.goesOn, session.tellsWhere name)
      else if options.has 'p' then
        let path : Text := "/usr/local/sbin:/usr/local/bin:/usr/sbin:/usr/bin:/sbin:/bin"
        if Builtin.has session.large name then callBuiltin fuel tested name arguments session
        else match session.program (Session.directoriesOf (some path)) name with
          | .ok program => execute fuel program name arguments session
          | .error reason => (.goesOn, session.refusesCommand name reason)
      else callCommand fuel tested name arguments session

def execute : Nat → Program → Text → List Text → Session → Course × Session
  | 0, _, _, _, session => (.goesOn, session)
  | fuel + 1, program, name, arguments, session =>
    let runner := runner fuel
    match program with
    | .script file path => runner.runScript (.ofFile file path arguments) session
    | .tool tool =>
      if let some act := tool? tool then
        match act session arguments with
        | (.killed signal, after) => runner.meetSignal signal (after.ended 0)
        | (course, after) =>
          let after := after.written false tool
          if session.disk.clock < after.disk.clock then
            let waiting := { after with disk := { after.disk with clock := session.disk.clock } }
            (course, (runner.passTime fuel after.disk.clock waiting).buried)
          else (course, after)
      else if let some read := Detour.tools.lookup tool then
        (.goesOn, takeDetour (execute fuel) tool (read arguments) session)
      else if tool = "which".toList then (.goesOn, session.tellsPaths arguments)
      else if tool = "xargs".toList then (.goesOn, feed (execute fuel) arguments session)
      else if tool = "find".toList then
        (.goesOn, Find.search (callForFind (execute fuel)) fuel arguments session)
      else if tool = "awk".toList then
        (.goesOn, Records.runTool runner.runScript fuel arguments session)
      else if shells.contains tool then
        match session.shellCall tool arguments with
        | .error words => (.goesOn, session.fails (tool ++ ": 0: " ++ words) 2)
        | .ok shellCall => runner.runScript shellCall session
      else (.goesOn, session.refusesCommand name .missing)

/-- Runs a simple command whose words are known; `outputs` says whether outputs of other commands
are among them, and `shown` where it is shown. -/
def runWords : Nat → (tested : Bool) → List (Text × Word) → (outputs : Bool) →
    (shown : Option Channel) → List Text → Session → Course × Session
  | 0, _, _, _, _, _, session => (.goesOn, session)
  | fuel + 1, tested, assignments, outputs, shown, fields, session =>
    let runner := runner fuel
    let inner := runner.inner fuel
    let becomes := session.becomes && session.farewell.isEmpty && session.traps.isEmpty
    let assigned :=
      inner.assignWords fuel assignments { session with becomes := false, fallen := none }
    let values := assignments.map fun (name, _) =>
      name ++ '=' :: (assigned.parameter? name).getD []
    let assigned := assigned.traces shown (values ++ fields)
    match assigned.stopped, fields with
    | true, _ => assigned.halted
    | false, [] =>
      let outputs := outputs || assignments.any fun (_, word) => isOutput word
      runner.conclude tested
        (.goesOn, { assigned with statuses := [] }.ended (if outputs then assigned.outcome else 0))
    | false, name :: arguments =>
      let names := assignments.map (·.1)
      let (course, after) := call fuel tested name arguments
        { assigned with exported := names ++ assigned.exported }
      let after := if Session.specialBuiltins.contains name then after
        else after.restore session names
      let exported := if Session.specialBuiltins.contains name then after.exported
        else after.exported.filter fun name =>
          !names.contains name || assigned.exported.contains name
      let left := { after with exported, fallen := none, statuses := [] }
      match after.fallen, becomes with
      | some signal, true => (.killed signal, left)
      | some signal, false =>
        runner.conclude tested
          (course, if left.isStruck then left else left.mourns (left.channels.lookup 2) signal)
      | none, _ => runner.conclude tested (course, left)

/-- Runs a command and meets the signals that have come meanwhile; `tested` says whether something
depends on how it ends. -/
def run : Nat → Bool → Command → Session → Course × Session
  | 0, _, _, session => (.goesOn, session)
  | fuel + 1, tested, command, session =>
    let runner := runner fuel
    let found := perform fuel tested command
      { session with becomes := session.becomes && isCall command }
    if found.2.signals.isEmpty then found else runner.meetSignals found

/-- Runs a command; `tested` says whether something depends on how it ends. -/
def perform : Nat → Bool → Command → Session → Course × Session
  | 0, _, _, session => (.goesOn, session)
  | fuel + 1, tested, command, session =>
    let runner := runner fuel
    let inner := runner.inner fuel
    if session.readsOnly then (.goesOn, session)
    else match command with
    | .nothing => (.goesOn, session)
    | .lines tokens =>
      let tokens := skipLines tokens
      if tokens.isEmpty then (.goesOn, session)
      else match nextLine session.large session.aliases tokens with
        | .error misfit =>
          let session := { session with line := session.lastLine - misfit.linesLeft }
          (.exits, { session.failsWithin ("Syntax error: " ++ misfit.words) 2 with
            stopped := session.large, endsLine := session.large })
        | .ok (command, rest) =>
          match run fuel tested command session with
          | (.goesOn, session) => run fuel tested (.lines rest) session
          | (.exits, session) =>
            if session.stopped ∧ session.endsLine then
              run fuel tested (.lines rest)
                ({ session with stopped := false, endsLine := false }.ended 1)
            else (.exits, session)
          | ended => ended
    | .simple linesLeft assignments words =>
      let session := { session with line := session.lastLine - linesLeft }
      let (fields, session) := inner.fieldsOf fuel words (session.ended session.status)
      if session.stopped then session.halted
      else if session.isStruck then (.goesOn, session)
      else
        runWords fuel tested assignments (words.any isOutput) (session.channels.lookup 2) fields
          session
    | .redirected (.simple linesLeft assignments words) redirects =>
      let session := { session with line := session.lastLine - linesLeft }
      let (fields, session) := inner.fieldsOf fuel words (session.ended session.status)
      if session.stopped then session.halted
      else match inner.redirectAll fuel redirects session, fields with
        | .error hindrance, _ =>
          if session.stopped then session.halted
          else if hindrance.ends ∨
              (Session.specialBuiltins.contains (fields.headD []) && !session.large) then
            (.exits, session.failsWithin hindrance.words 2)
          else runner.conclude tested
            (.goesOn, session.failsWithin hindrance.words (if session.large then 1 else 2))
        | .ok led, [['e', 'x', 'e', 'c']] => (.goesOn, led.ended 0)
        | .ok led, fields =>
          let (course, after) := runWords fuel tested assignments (words.any isOutput)
            (session.channels.lookup 2) fields led
          (course, after.behindRedirects session led redirects)
    | .redirected body redirects =>
      match inner.redirectAll fuel redirects session with
      | .error hindrance =>
        if session.stopped then session.halted
        else if hindrance.ends then (.exits, session.failsWithin hindrance.words 2)
        else runner.conclude tested
          (.goesOn, session.failsWithin hindrance.words (if session.large then 1 else 2))
      | .ok led =>
        let (course, after) := run fuel tested body led
        (course, after.behindRedirects session led redirects)
    | .sequence first second =>
      let isLast : Bool := match second with
        | .nothing => true
        | _ => false
      let becomes := session.becomes
      match run fuel tested first { session with becomes := becomes && isLast } with
      | (.goesOn, session) =>
        if isLast then (.goesOn, session)
        else run fuel tested second { session with becomes }
      | ended => ended
    | .both first second =>
      match run fuel true first session with
      | (.goesOn, session) =>
        if session.status = 0 then run fuel tested second session else (.goesOn, session)
      | ended => ended
    | .either first second =>
      match run fuel true first session with
      | (.goesOn, session) =>
        if session.status = 0 then (.goesOn, session) else run fuel tested second session
      | ended => ended
    | .negated body =>
      match run fuel true body session with
      | (.goesOn, session) => (.goesOn, session.ended (if session.status = 0 then 1 else 0))
      | ended => ended
    | .pipe first second =>
      let (part, index) := session.collect 1
      let (course, after) := runner.runPart tested first part
      let after := runner.runJobs fuel (session.jobCount + 1) none after
      let session := (session.afterPart after).behindPart course
      let status := session.status
      let (course, after) := runner.runPart tested second { session with
        input := after.collected index, fromFile := false }
      let session := (session.afterPart after).behindPart course
      let others := match second with
        | .pipe _ _ => after.statuses
        | _ => [session.status]
      let session := { session with statuses := status :: others }
      let fails := session.failsAnywhere ∧ session.status = 0
      runner.conclude tested (.goesOn, if fails then session.ended status else session)
    | .background body =>
      let job := { session.inside with input := .empty, own := none }
      let session := ({ session with lastJob := some job.self }).lists job.self
      let after := runner.runJob fuel session.self (backgroundCommands body) job
      (.goesOn, { session.afterPart after with
        outcomes := after.outcomes, felled := after.felled }.ended 0)
    | .subshell body =>
      let (course, after) := runner.runPart tested body session
      let session := { session.afterPart after with input := after.input }
      runner.conclude tested (.goesOn, { session with statuses := [] }.behindPart course)
    | .branch condition yes no =>
      match run fuel true condition session with
      | (.goesOn, session) =>
        if session.status = 0 then run fuel tested yes session
        else run fuel tested no (session.ended 0)
      | ended => ended
    | .loop endsOn condition body =>
      let (course, after) :=
        runner.runWhile fuel tested endsOn condition body 0
          { session with loops := session.loops + 1 }
      (leaveLoop course, { after with loops := session.loops })
    | .each name words body =>
      let (values, session) := match words with
        | some words => inner.wordsOf fuel words session
        | none => (session.arguments, session)
      let (course, after) :=
        runner.runEach name body values { session.ended 0 with loops := session.loops + 1 }
      (leaveLoop course, { after with loops := session.loops })
    | .choose word arms =>
      let (glyphs, session) :=
        inner.glyphsOf fuel ((session.atHome false word).map Part.whole) session
      runner.runArms fuel (Glyph.text glyphs) false arms (session.ended 0)
    | .ask question =>
      let (found, session) := inner.answer fuel question session
      if session.stopped then session.halted
      else runner.conclude tested (.goesOn, session.ended (if found then 0 else 1))
    | .sum expression =>
      let (glyphs, session) := inner.glyphsOf fuel (expressionWord true expression) session
      match session.calculate (Glyph.text glyphs) with
      | (some n, session) =>
        runner.conclude tested (.goesOn, session.ended (if n = 0 then 1 else 0))
      | (none, session) => (.goesOn, { session with stopped := false }.ended 1)
    | .count start condition step body =>
      let (glyphs, session) := inner.glyphsOf fuel (expressionWord true start) session
      let (_, session) := if start.all Text.isBlank then (none, session)
        else session.calculate (Glyph.text glyphs)
      let (course, after) :=
        runner.runCounting fuel condition step body
          { session.ended 0 with loops := session.loops + 1 }
      (leaveLoop course, { after with loops := session.loops })
    | .setList name adds values =>
      let (values, session) := match Session.indexed? name, values with
        | some _, [value] =>
          let (glyphs, session) := inner.glyphsOf fuel (value.map Part.whole) session
          ([Glyph.text glyphs], session)
        | _, values => inner.wordsOf fuel values session
      match Session.indexed? name with
      | some (list, index) =>
        let (key?, session) := inner.keyOf fuel list index session
        let element := Session.elementName list (key?.getD ['0'])
        let value := (if adds then (session.parameter? element).getD [] else []) ++ values.headD []
        (.goesOn, (session.assign element value).ended 0)
      | none => (.goesOn, (session.assignList name adds values).ended 0)
    | .define name body =>
      if !session.large ∧ (!Session.isName name ∨ Session.specialBuiltins.contains name) then
        (.exits, session.failsWithin "Syntax error: Bad function name" 2)
      else (.goesOn, { session with functions := (name, body) :: session.functions }.ended 0)

end

end Agenda.Shell
