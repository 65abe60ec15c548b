import Agenda.CommandLine.Run
import Agenda.Proofs.Render.Loading

/-!
# The steps of a run

What each step of a run without typesetting does to the world, and how it ends. Up to the document
there is nothing but the log file and the input to go wrong (`exists_process`). Behind it a run
notes something, lists something, and renders and writes something, and every step is stated for the
world that it finds; two such worlds differ by notes alone.
-/

namespace Agenda.CommandLine

open World (Noted Told)

variable {means : Means} {choices : Choices} {log : Option Place} {world : World}

/-! ### Setting up -/

/-- The place of the log file, if one was chosen, or why it cannot be opened. -/
def Choices.logAt (choices : Choices) (world : World) : Except Trouble (Option Place) :=
  match choices.logFile with
  | none | some [] => .ok none
  | some path =>
    if path.contains '\x00' then .error .zeroInside
    else match world.disk.findWritable world.here (logPath world path) with
      | .error reason => .error (.refused ⟨reason, logPath world path⟩)
      | .ok place => .ok (some place)

def logging (means : Means) (world : World) : Option Place → World
  | none => world
  | some place =>
    { world with
      disk := world.disk.touched (some place)
      log := some { place, clock := means.clock } }

theorem openLog_eq (means : Means) (choices : Choices) (world : World) :
    openLog means choices world =
      match choices.logAt world with
      | .error trouble => (.error trouble, world)
      | .ok log => (.ok (), logging means world log) := by
  rcases hfile : choices.logFile with _ | _ | ⟨c, path⟩
  · rw [Choices.logAt, openLog, hfile]
    rfl
  · rw [Choices.logAt, openLog, hfile]
    rfl
  · rw [Choices.logAt, openLog, hfile]
    dsimp only
    cases hzero : (c :: path).contains '\x00' with
    | true =>
      rw [if_pos rfl, Action.bind_of_error (World.checkZero_of_zero hzero world)]
    | false =>
      rw [if_neg Bool.false_ne_true, Action.bind_of_ok (World.checkZero_of_clean hzero world),
        Action.bind_get]
      cases world.disk.findWritable world.here (logPath world (c :: path)) <;> rfl

/-- A run that has been set up has a log file if one was chosen, and nothing else has changed. -/
theorem setUp_eq (means : Means) (choices : Choices) (world : World) :
    ∃ opened, setUp means choices world = ((choices.logAt world).map fun _ => (), opened) ∧
      ∀ log, choices.logAt world = .ok log →
        Noted log world opened ∧ opened.disk = world.disk.touched log := by
  let fresh : World :=
    { world with threshold := if choices.verbose then .debug else .info, log := none }
  have hsetUp : setUp means choices world = openLog means choices fresh := rfl
  have hlog : choices.logAt fresh = choices.logAt world := rfl
  rw [hsetUp, openLog_eq, hlog]
  cases choices.logAt world with
  | error trouble => exact ⟨fresh, rfl, nofun⟩
  | ok log =>
    refine ⟨_, rfl, ?_⟩
    rintro _ ⟨⟩
    cases log with
    | none => exact ⟨⟨rfl, rfl, rfl, List.prefix_rfl, .refl .., rfl⟩, rfl⟩
    | some place =>
      exact ⟨⟨rfl, rfl, rfl, List.prefix_rfl, Disk.sameBut_touched .., rfl⟩, rfl⟩

/-! ### Reading the input -/

/-- What is found for the input: the standard input for a dash. -/
def inputFound (input : Text) (stdin : Stdin) (disk : Disk) (here : Place) : Stdin :=
  if input = ['-'] then stdin
  else match disk.read here input with
    | .error refusal => .refused refusal
    | .ok bytes => .ofBytes bytes

/-- What reading the input gives: the document, or why it is refused. -/
def inputAt (input : Text) (stdin : Stdin) (disk : Disk) (here : Place) :
    Except Trouble (Except Disk.Refusal Text) :=
  if input.contains '\x00' then .error .zeroInside
  else match inputFound input stdin disk here with
    | .text document => .ok (.ok document)
    | .undecodable => .error .undecodable
    | .refused refusal => .ok (.error refusal)
    | .closed => .error .noInput

theorem readInput_eq (input : Text) (world : World) :
    readInput input world = (inputAt input world.stdin world.disk world.here, world) := by
  cases hzero : input.contains '\x00' with
  | true =>
    rw [readInput, Action.bind_of_error (World.checkZero_of_zero hzero world), inputAt, if_pos hzero]
  | false =>
    have hread : readInput input world =
        (match inputFound input world.stdin world.disk world.here with
          | .text document => return .ok document
          | .undecodable => throw .undecodable
          | .refused refusal => return .error refusal
          | .closed => throw .noInput : World.Act (Except Disk.Refusal Text)) world := by
      rw [readInput, Action.bind_of_ok (World.checkZero_of_clean hzero world), Action.bind_get]
      rfl
    rw [hread, inputAt, hzero, if_neg Bool.false_ne_true]
    cases inputFound input world.stdin world.disk world.here <;> rfl

/-! ### Listing -/

/-- What a run lists on the standard output. -/
def Choices.listed (choices : Choices) (events : List Event) : ByteArray :=
  if choices.dump && !(choices.format.isSome && choices.outputPath.isEmpty) then
    Text.toBytes (listing events)
  else .empty

/-- Whether a run lists what it has read on the error stream. -/
structure Choices.ListsAside (choices : Choices) : Prop where
  dump : choices.dump = true
  renders : choices.format.isSome = true
  output : choices.outputPath = []

/-- Telling about events notes something, prints what is listed, and changes nothing else. -/
theorem report_spec (choices : Choices) (events : List Event) (hlog : world.logPlace? = log) :
    ∃ after, Noted log (world.print (choices.listed events)) after ∧
      (choices.ListsAside → Told (listing events) world after) ∧
      report choices events world = (.ok (), after) := by
  let count : Note := ⟨.info, "Parsirano dogadjaja: " ++ Text.ofNat events.length⟩
  have hcount := World.noted_note count hlog
  have hreport : report choices events world =
      (if choices.dump then printListing choices events else pure ()) (Journal.note count world) := rfl
  rw [hreport, Choices.listed]
  cases hdump : choices.dump with
  | false =>
    refine ⟨_, ?_, fun haside => (nomatch hdump.symm.trans haside.dump), rfl⟩
    rw [Bool.false_and, if_neg Bool.false_ne_true, World.print_empty]
    exact hcount
  | true =>
    rw [Bool.true_and, if_pos rfl, printListing]
    cases htaken : choices.format.isSome && choices.outputPath.isEmpty with
    | true =>
      refine ⟨_, ?_, fun _ => ⟨_, hcount.stderr, List.prefix_rfl⟩, rfl⟩
      rw [Bool.not_true, if_neg Bool.false_ne_true, World.print_empty]
      exact hcount.trans (World.noted_printError _ hcount.log)
    | false =>
      refine ⟨_, hcount.print _, fun haside => ?_, rfl⟩
      rw [haside.renders, haside.output] at htaken
      cases htaken

/-! ### Rendering -/

/-- What was chosen for a rendering besides the minutes of a column. -/
def Choices.optionsWith (choices : Choices) (dayMinutes : Int) : Except Trouble Page.Options :=
  if dayMinutes ≤ 0 then .ok { dayMinutes }
  else match choices.template with
    | none => .ok ⟨none, dayMinutes⟩
    | some .nothing => .error .nothingGiven
    | some (.value path) => .ok ⟨some path, dayMinutes⟩

/-- What was chosen for a rendering, if a value is there for everything that needs one. -/
def Choices.optionsFor (choices : Choices) (format : Format) : Except Trouble Page.Options :=
  if format = .page then
    match choices.dayMinutes with
    | .nothing => .error .nothingGiven
    | .value dayMinutes => choices.optionsWith dayMinutes
  else choices.optionsWith 480

theorem renderOptions_eq (choices : Choices) (format : Format) (world : World) :
    renderOptions choices format world = (choices.optionsFor format, world) := by
  have hwith (dayMinutes : Int) :
      (if dayMinutes ≤ 0 then (return { dayMinutes } : World.Act Page.Options)
        else return ⟨← choices.template.mapM need, dayMinutes⟩) world =
      (choices.optionsWith dayMinutes, world) := by
    rw [Choices.optionsWith]
    by_cases hlength : dayMinutes ≤ 0
    · rw [if_pos hlength, if_pos hlength]
      rfl
    · rw [if_neg hlength, if_neg hlength]
      rcases choices.template with _ | _ | path <;> rfl
  rw [renderOptions, Choices.optionsFor]
  by_cases hpage : format = .page
  · rw [if_pos hpage, if_pos hpage]
    cases choices.dayMinutes with
    | nothing => exact Action.bind_of_error rfl
    | value dayMinutes => exact (Action.bind_of_ok rfl).trans (hwith dayMinutes)
  · rw [if_neg hpage, if_neg hpage]
    exact (Action.bind_of_ok rfl).trans (hwith 480)

theorem cases_of_optionsWith_error {dayMinutes : Int} {trouble : Trouble}
    (h : choices.optionsWith dayMinutes = .error trouble) :
    trouble = .nothingGiven ∧ choices.template = some .nothing := by
  rw [Choices.optionsWith] at h
  split at h
  · cases h
  · rcases htemplate : choices.template with _ | _ | path <;> rw [htemplate] at h <;> cases h
    exact ⟨rfl, rfl⟩

/-- A rendering lacks an option only where something was given as nothing. -/
theorem cases_of_optionsFor_error {format : Format} {trouble : Trouble}
    (h : choices.optionsFor format = .error trouble) :
    trouble = .nothingGiven ∧ (choices.template = some .nothing ∨ choices.dayMinutes = .nothing) := by
  rw [Choices.optionsFor] at h
  split at h
  · cases hminutes : choices.dayMinutes with
    | nothing => rw [hminutes] at h; exact ⟨(Except.error.inj h).symm, .inr rfl⟩
    | value dayMinutes =>
      rw [hminutes] at h
      exact (cases_of_optionsWith_error h).imp_right .inl
  · exact (cases_of_optionsWith_error h).imp_right .inl

/-- The template of a rendering is the one that was given. -/
theorem template_of_optionsFor {format : Format} {options : Page.Options} {path : Text}
    (h : choices.optionsFor format = .ok options) (hpath : options.template = some path) :
    choices.template = some (.value path) := by
  have hwith (dayMinutes : Int) (h : choices.optionsWith dayMinutes = .ok options) :
      choices.template = some (.value path) := by
    rw [Choices.optionsWith] at h
    split at h
    · cases h; cases hpath
    · rcases htemplate : choices.template with _ | _ | other <;> rw [htemplate] at h <;> cases h
      · cases hpath
      · cases hpath; rfl
  rw [Choices.optionsFor] at h
  split at h
  · cases hminutes : choices.dayMinutes with
    | nothing => rw [hminutes] at h; cases h
    | value dayMinutes => rw [hminutes] at h; exact hwith dayMinutes h
  · exact hwith 480 h

/-- Events laid out and rendered as was chosen, with the template on a disk. -/
def Choices.laidOut [Converter] (choices : Choices) (format : Format) (disk : Disk) (here : Place)
    (events : List Event) : Except Trouble Text :=
  match choices.optionsFor format with
  | .ok options =>
    laidOutIn format options.dayMinutes
      (Template.loaded options.template format.templateName disk here) events
  | .error trouble => do
    let _ ← (timetableOrFault events).mapError .fault
    .error trouble

theorem exists_rendered [Converter] (choices : Choices) (format : Format) (events : List Event)
    (hlog : world.logPlace? = log) :
    ∃ loading ready, Noted log world loading ∧ Noted log world ready ∧
      ((Outcome.success events).andThen Timetable.stage none >>= render choices format) world =
        (Outcome.settled (choices.laidOut format loading.disk world.here events), ready) := by
  cases hoptions : choices.optionsFor format with
  | ok options =>
    have hrender : render choices format = (renderer format options).runFrom := by
      funext outcome world
      cases outcome with
      | failure trouble => rw [Pipeline.runFrom_failure]; rfl
      | success timetable =>
        exact Action.bind_of_ok ((renderOptions_eq ..).trans (congrArg (·, world) hoptions))
    rw [hrender]
    simp only [Choices.laidOut, hoptions]
    exact exists_layout_run format options events hlog
  | error trouble =>
    obtain ⟨laid, hlaid, hchain⟩ := (Timetable.gives_chain events).exists_noted hlog
    refine ⟨world, laid, World.noted_refl hlog, hlaid, (Action.bind_of_ok hchain).trans ?_⟩
    simp only [Choices.laidOut, hoptions]
    cases timetableOrFault events with
    | error fault => exact congrArg (·, laid) (Outcome.settled_fault fault).symm
    | ok timetable =>
      obtain ⟨rfl, -⟩ := cases_of_optionsFor_error hoptions
      exact Action.bind_of_error ((renderOptions_eq ..).trans (congrArg (·, laid) hoptions))

/-- What a run without typesetting does with what a rendering has come to. -/
def conclude (choices : Choices) (format : Format) : Except Trouble Text → World.Act Nat
  | .ok text => deliver choices format (Text.toBytes text)
  | .error trouble => if trouble.isIn .any then failWith trouble.message else throw trouble

theorem renderEvents_eq [Converter] (means : Means) (format : Format)
    (outcome : Outcome Trouble (List Event)) (hpdf : choices.pdf = false) :
    renderEvents means choices format outcome =
      (outcome.andThen Timetable.stage none >>= render choices format) >>= fun
        | .failure trouble => failWith trouble.message
        | .success text => deliver choices format (Text.toBytes text) := by
  rw [renderEvents, bind_assoc]
  refine bind_congr fun timetable => bind_congr fun rendering => ?_
  cases rendering with
  | failure trouble =>
    rw [typesetIfChosen, hpdf, if_neg Bool.false_ne_true]
    exact congrArg failWith trouble.message_toFault
  | success text => rw [typesetIfChosen, hpdf, if_neg Bool.false_ne_true]; rfl

theorem renderEvents_failure [Converter] {trouble : Trouble} (format : Format)
    (hpdf : choices.pdf = false) :
    renderEvents means choices format (.failure trouble) = failWith trouble.message :=
  renderEvents_eq means format _ hpdf

/-- Events are rendered and the result is written, or what has gone wrong is reported. -/
theorem exists_renderEvents [Converter] (means : Means) (format : Format) (events : List Event)
    (hpdf : choices.pdf = false) (hlog : world.logPlace? = log) :
    ∃ loading ready, Noted log world loading ∧ Noted log world ready ∧
      renderEvents means choices format (.success events) world =
        conclude choices format (choices.laidOut format loading.disk world.here events) ready := by
  obtain ⟨loading, ready, hloading, hready, hrendered⟩ := exists_rendered choices format events hlog
  refine ⟨loading, ready, hloading, hready, ?_⟩
  rw [renderEvents_eq means format _ hpdf]
  cases hlaid : choices.laidOut format loading.disk world.here events with
  | ok text =>
    rw [hlaid] at hrendered
    exact Action.bind_of_ok hrendered
  | error trouble =>
    rw [hlaid, Outcome.settled] at hrendered
    rw [conclude]
    split at hrendered
    · rename_i hfault
      rw [if_pos hfault]
      exact Action.bind_of_ok hrendered
    · rename_i hfault
      rw [if_neg hfault]
      exact Action.bind_of_error hrendered

/-! ### Writing the result -/

/-- The words for a result that cannot be written. -/
def refusedOutput (path : Text) (refusal : Disk.Refusal) : Text :=
  "izlaz '" ++ path ++ "' nije moguce zapisati: " ++ refusal.message

/-- The note about a result that was written to a file. -/
def writtenNote (choices : Choices) (format : Format) (path : Text) : Note :=
  let mark : Text := if choices.pdf then " (PDF)" else []
  ⟨.info, "Generisan " ++ format.name ++ mark ++ ": " ++ path⟩

theorem deliver_stdout (format : Format) (bytes : ByteArray) (houtput : choices.output = none)
    (world : World) : deliver choices format bytes world = (.ok 0, world.print bytes) := by
  have hpath : choices.outputPath = [] := by rw [Choices.outputPath, houtput]; rfl
  rw [deliver, houtput, hpath]
  rfl

theorem deliver_nothing (format : Format) (bytes : ByteArray)
    (houtput : choices.output = some .nothing) (world : World) :
    deliver choices format bytes world = (.error .nothingGiven, world) := by
  rw [deliver, houtput]
  rfl

theorem deliver_zero {path : Text} (format : Format) (bytes : ByteArray)
    (houtput : choices.output = some (.value path)) (hzero : path.contains '\x00' = true)
    (world : World) : deliver choices format bytes world = (.error .zeroInside, world) := by
  rw [deliver, houtput]
  refine (Action.bind_of_ok rfl).trans (Action.bind_of_error ?_)
  rw [writeOutput]
  exact (Action.bind_of_ok rfl).trans (Action.bind_of_error (World.checkZero_of_zero hzero world))

theorem deliver_file {path : Text} (format : Format) (bytes : ByteArray)
    (houtput : choices.output = some (.value path)) (hzero : path.contains '\x00' = false)
    (world : World) :
    deliver choices format bytes world =
      match world.disk.write world.here path bytes with
      | (some refusal, disk) => failWith (refusedOutput path refusal) { world with disk }
      | (none, disk) =>
        (.ok 0, Journal.note (writtenNote choices format path) { world with disk }) := by
  have hpath : choices.outputPath = path := by rw [Choices.outputPath, houtput]; rfl
  rw [deliver, houtput, hpath]
  refine (Action.bind_of_ok rfl).trans ?_
  rcases hresult : world.disk.write world.here path bytes with ⟨refused, disk⟩
  have hwrite : writeOutput (some path) bytes world = (.ok refused, { world with disk }) := by
    rw [writeOutput, Action.bind_get]
    refine (Action.bind_of_ok (World.checkZero_of_clean hzero world)).trans ?_
    rw [hresult]
    rfl
  refine (Action.bind_of_ok hwrite).trans ?_
  cases refused with
  | some refusal => rfl
  | none =>
    cases path with
    | nil => cases hresult
    | cons first rest => rfl

/-! ### Documents -/

/-- A document with a faulty block, where that ends the reading, is reported. -/
theorem exists_processDocument_failure [Languages] [Converter] {document : Text} {fault : Fault}
    (means : Means) (hpdf : choices.pdf = false)
    (hevents : eventsOrFault choices.policy document = .error fault)
    (hlog : world.logPlace? = log) :
    ∃ ready, Noted log world ready ∧
      processDocument means choices document world = failWith fault.message ready := by
  obtain ⟨ready, hready, hchain⟩ :=
    (Reader.gives_chain choices.policy document).exists_noted hlog
  rw [hevents] at hchain
  refine ⟨ready, hready, (Action.bind_of_ok hchain).trans ?_⟩
  cases hformat : choices.format with
  | none => rfl
  | some format => exact congrFun (renderEvents_failure format hpdf) ready

/-- Without a format, a document that was read is at most listed. -/
theorem exists_processDocument_listing [Languages] [Converter] {document : Text}
    {events : List Event} (means : Means)
    (hevents : eventsOrFault choices.policy document = .ok events) (hformat : choices.format = none)
    (hlog : world.logPlace? = log) :
    ∃ ready, Noted log (world.print (choices.listed events)) ready ∧
      processDocument means choices document world = (.ok 0, ready) := by
  obtain ⟨read, hread, hchain⟩ := (Reader.gives_chain choices.policy document).exists_noted hlog
  obtain ⟨ready, hready, -, hreport⟩ := report_spec choices events hread.log
  rw [hevents] at hchain
  refine ⟨ready, (hread.print _).trans hready, ?_⟩
  rw [processDocument, hformat]
  exact (Action.bind_of_ok hchain).trans (Action.bind_of_ok hreport)

/-- With a format, a document that was read is rendered, and what comes of it is written. -/
theorem exists_processDocument_rendering [Languages] [Converter] {document : Text}
    {events : List Event} {format : Format} (means : Means) (hpdf : choices.pdf = false)
    (hevents : eventsOrFault choices.policy document = .ok events)
    (hformat : choices.format = some format) (hlog : world.logPlace? = log) :
    ∃ loading ready, Noted log (world.print (choices.listed events)) loading ∧
      Noted log (world.print (choices.listed events)) ready ∧
      (choices.ListsAside → Told (listing events) world ready) ∧
      processDocument means choices document world =
        conclude choices format (choices.laidOut format loading.disk world.here events) ready := by
  obtain ⟨read, hread, hchain⟩ := (Reader.gives_chain choices.policy document).exists_noted hlog
  obtain ⟨told, htold, haside, hreport⟩ := report_spec choices events hread.log
  obtain ⟨loading, ready, hloading, hready, hrender⟩ :=
    exists_renderEvents means format events hpdf htold.log
  have hlisted := (hread.print _).trans htold
  rw [hevents] at hchain
  refine ⟨loading, ready, hlisted.trans hloading, hlisted.trans hready,
    fun h => hread.trans_told ((haside h).mono hready.stderr), ?_⟩
  rw [processDocument, hformat]
  refine (Action.bind_of_ok hchain).trans ((Action.bind_of_ok hreport).trans (hrender.trans ?_))
  rw [show told.here = world.here from hlisted.here]

/-! ### From the log file to the document -/

theorem exists_process_of_logAt_error [Languages] [Converter] {trouble : Trouble} (means : Means)
    (input : Given Text) (h : choices.logAt world = .error trouble) :
    ∃ after, process means input choices world = (.error trouble, after) := by
  obtain ⟨after, hsetUp, -⟩ := setUp_eq means choices world
  rw [h] at hsetUp
  exact ⟨after, Action.bind_of_error hsetUp⟩

/-- The words for an input that cannot be read. -/
def refusedInput (path : Text) (refusal : Disk.Refusal) : Text :=
  "ulazni fajl '" ++ path ++ "' nije moguce procitati: " ++ refusal.message

/-- Behind the log file the input is read, and then there is a document, or there is none. -/
theorem exists_process [Languages] [Converter] (means : Means) (input : Given Text)
    (h : choices.logAt world = .ok log) :
    ∃ opened, Noted log world opened ∧ opened.disk = world.disk.touched log ∧
      process means input choices world =
        match input with
        | .nothing => (.error .nothingGiven, opened)
        | .value path =>
          match inputAt path world.stdin opened.disk world.here with
          | .error trouble => (.error trouble, opened)
          | .ok (.error refusal) => failWith (refusedInput path refusal) opened
          | .ok (.ok document) => processDocument means choices document opened := by
  obtain ⟨opened, hsetUp, hopened⟩ := setUp_eq means choices world
  obtain ⟨hnoted, hdisk⟩ := hopened log h
  rw [h] at hsetUp
  refine ⟨opened, hnoted, hdisk, (Action.bind_of_ok hsetUp).trans ?_⟩
  cases input with
  | nothing => exact Action.bind_of_error rfl
  | value path =>
    have hread := readInput_eq path opened
    rw [hnoted.stdin, hnoted.here] at hread
    refine (Action.bind_of_ok rfl).trans ?_
    dsimp only
    cases hinput : inputAt path world.stdin opened.disk world.here with
    | error trouble =>
      rw [hinput] at hread
      exact Action.bind_of_error hread
    | ok found =>
      rw [hinput] at hread
      cases found with
      | error refusal => exact Action.bind_of_ok hread
      | ok document => exact Action.bind_of_ok hread

end Agenda.CommandLine
