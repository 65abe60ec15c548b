import Agenda.Proofs.CommandLine.Process

/-!
# How a run ends

A run without typesetting ends in one of three ways. It does all that was chosen and ends with code
0; or something fails, and that is reported as an error and the code is 1; or a trouble that no step
answers for leaves the run without a report (`Ends`). The troubles of the last kind are few
(`Leaves`): the log file cannot be opened, a path holds the character zero or was given as nothing,
there is no standard input to be read, the bytes of the input or the template are no text, or the
converter fails for a description of a page. Of these the first ones are met in every run
(`run_ends`).
-/

namespace Agenda

/-! ### Troubles that no step answers for -/

/-- Every fault is answered for. -/
theorem isIn_any_of_mapError {α : Type} {result : Except Fault α} {trouble : Trouble}
    (h : result.mapError Trouble.fault = .error trouble) : trouble.isIn .any = true := by
  cases result with
  | ok value => cases h
  | error fault =>
    rw [← Except.error.inj h]
    exact Family.within_any _

/-- What no step answers for in loading a template is in its path or in its bytes. -/
theorem Template.cases_of_loaded {path : Option Text} {name : Text} {disk : Disk} {here : Place}
    {trouble : Trouble} (h : loaded path name disk here = .error trouble)
    (hno : ¬ trouble.isIn .any = true) :
    ∃ chosen, path = some chosen ∧
      (trouble = .zeroInside ∧ chosen.contains '\x00' = true ∨
        trouble = .undecodable ∧
          ∃ bytes, disk.read here chosen = .ok bytes ∧ Text.ofFile? bytes = none) := by
  cases path with
  | none =>
    rw [loaded] at h
    split at h
    · rw [← Except.error.inj h] at hno
      exact absurd (Family.within_any _) hno
    · cases h
  | some chosen =>
    refine ⟨chosen, rfl, ?_⟩
    rw [loaded, World.textAt] at h
    split at h
    · rename_i hzero
      exact .inl ⟨(Except.error.inj h).symm, hzero⟩
    · split at h
      · rw [← Except.error.inj h] at hno
        exact absurd (Family.within_any _) hno
      · rename_i bytes hread
        cases htext : Text.ofFile? bytes with
        | some text => rw [htext] at h; cases h
        | none =>
          rw [htext] at h
          exact .inr ⟨(Except.error.inj h).symm, bytes, hread, htext⟩

/-- What no step answers for in laying out and rendering comes from the template, or from the
converter of the descriptions on a page. -/
theorem cases_of_laidOutIn [Converter] {format : Format} {dayMinutes : Int}
    {loaded : Except Trouble Text} {events : List Event} {trouble : Trouble}
    (h : laidOutIn format dayMinutes loaded events = .error trouble)
    (hno : ¬ trouble.isIn .any = true) :
    loaded = .error trouble ∨ format = .page ∧ (∃ template, loaded = .ok template) ∧
      ∃ event ∈ events, ∃ description words, event.description = some description ∧
        Converter.convert description = .error words ∧ trouble = .conversion words := by
  rw [laidOutIn] at h
  cases hlayout : Timetable.ofEvents? events with
  | none =>
    rw [timetableOrFault, hlayout] at h
    rw [← Except.error.inj h] at hno
    exact absurd (Family.within_any _) hno
  | some timetable =>
    rw [timetableOrFault, hlayout] at h
    replace h : renderedIn format dayMinutes loaded timetable = .error trouble := h
    rw [renderedIn] at h
    split at h
    · rw [← Except.error.inj h] at hno
      exact absurd (Family.within_any _) hno
    · cases loaded with
      | error other => exact .inl h
      | ok template =>
        replace h : (unconverted? format timetable).elim
          ((rendering format dayMinutes template timetable).mapError Trouble.fault) .error =
            .error trouble := h
        cases hconverted : unconverted? format timetable with
        | none =>
          rw [hconverted] at h
          exact absurd (isIn_any_of_mapError h) hno
        | some other =>
          rw [hconverted] at h
          obtain rfl : other = trouble := Except.error.inj h
          refine .inr ?_
          cases format with
          | picture => cases hconverted
          | booklet => cases hconverted
          | page =>
            rw [← Timetable.events_of_ofEvents? hlayout]
            exact ⟨rfl, ⟨template, rfl⟩, Page.exists_event_of_failure? hconverted⟩

namespace CommandLine

open World (Noted)

variable {means : Means} {input : Given Text} {choices : Choices} {log : Option Place}
  {world ready : World}

/-! ### Choices with values -/

/-- Whether everything that was chosen has a value. -/
structure Choices.Valued (choices : Choices) : Prop where
  input : choices.input ≠ some .nothing
  template : choices.template ≠ some .nothing
  output : choices.output ≠ some .nothing
  dayMinutes : choices.dayMinutes ≠ .nothing

theorem exists_of_bind_eq_ok {ε α β : Type} {x : Except ε α} {f : α → Except ε β} {made : β}
    (h : x >>= f = .ok made) : ∃ value, x = .ok value ∧ f value = .ok made := by
  cases x with
  | error error => cases h
  | ok value => exact ⟨value, rfl, h⟩

theorem Choices.Valued.throwSwitch {after : Choices} (h : choices.Valued) {switch : Switch}
    (hthrow : choices.throwSwitch switch = .ok after) : after.Valued := by
  cases switch with
  | help => cases hthrow
  | _ =>
    cases hthrow
    exact ⟨h.input, h.template, h.output, h.dayMinutes⟩

theorem Choices.Valued.throwSwitches {after : Choices} (h : choices.Valued)
    {switches : List Switch} (hthrow : choices.throwSwitches switches = .ok after) :
    after.Valued := by
  induction switches generalizing choices with
  | nil =>
    cases hthrow
    exact h
  | cons switch rest ih =>
    rw [Choices.throwSwitches, List.foldlM_cons] at hthrow
    obtain ⟨thrown, hfirst, hrest⟩ := exists_of_bind_eq_ok hthrow
    exact ih (h.throwSwitch hfirst) hrest

/-- A setting that is given a value has one. -/
theorem Choices.Valued.set {after : Choices} (h : choices.Valued) {setting : Setting} {value : Text}
    (hset : choices.set setting (.value value) = .ok after) : after.Valued := by
  cases setting with
  | input => cases hset; exact ⟨nofun, h.template, h.output, h.dayMinutes⟩
  | template => cases hset; exact ⟨h.input, nofun, h.output, h.dayMinutes⟩
  | output => cases hset; exact ⟨h.input, h.template, nofun, h.dayMinutes⟩
  | logFile => cases hset; exact ⟨h.input, h.template, h.output, h.dayMinutes⟩
  | format =>
    rw [Choices.set] at hset
    cases hformat : Format.ofName? value with
    | none => simp [hformat] at hset
    | some format =>
      simp only [hformat, Except.ok.injEq] at hset
      rw [← hset]
      exact ⟨h.input, h.template, h.output, h.dayMinutes⟩
  | dayMinutes =>
    rw [Choices.set] at hset
    cases hminutes : Text.integer? value with
    | none => simp [hminutes] at hset
    | some minutes =>
      simp only [hminutes, Except.ok.injEq] at hset
      rw [← hset]
      exact ⟨h.input, h.template, h.output, nofun⟩

theorem Given.ofText_later (t : Text) : ofText .later t = .value t := if_neg (nomatch ·.1)

/-- In the later dialect every argument that makes a setting gives it a value. -/
theorem Choices.Valued.choose {after : Choices} (h : choices.Valued)
    {arguments : List (Text × Argument)}
    (hchoose : Choices.choose .later choices arguments = .ok after) : after.Valued := by
  induction choices, arguments using Choices.choose.induct with
  | case1 choices => cases hchoose; exact h
  | case2 choices t rest => cases hchoose
  | case3 choices t rest => cases hchoose
  | case4 choices t rest ih =>
    exact ih ⟨h.input, h.template, h.output, h.dayMinutes⟩ hchoose
  | case5 choices t rest ih =>
    exact ih ⟨h.input, h.template, h.output, h.dayMinutes⟩ hchoose
  | case6 choices t switches rest ih =>
    obtain ⟨thrown, hthrow, hrest⟩ := exists_of_bind_eq_ok hchoose
    have hthrown := h.throwSwitches hthrow
    exact ih thrown ⟨hthrown.input, hthrown.template, hthrown.output, hthrown.dayMinutes⟩ hrest
  | case7 choices t switches rest ih =>
    obtain ⟨thrown, hthrow, hrest⟩ := exists_of_bind_eq_ok hchoose
    exact ih thrown (h.throwSwitches hthrow) hrest
  | case8 choices t switches setting given rest ih =>
    obtain ⟨thrown, hthrow, hset⟩ := exists_of_bind_eq_ok hchoose
    obtain ⟨made, hset, hrest⟩ := exists_of_bind_eq_ok hset
    rw [Given.ofText_later] at hset
    exact ih made ((h.throwSwitches hthrow).set hset) hrest
  | case9 choices t switches setting value rest ih =>
    obtain ⟨thrown, hthrow, hset⟩ := exists_of_bind_eq_ok hchoose
    obtain ⟨made, hset, hrest⟩ := exists_of_bind_eq_ok hset
    exact ih made ((h.throwSwitches hthrow).set hset) hrest
  | case10 choices t switches setting rest hvalue =>
    rw [Choices.choose] at hchoose
    · cases hchoose
    · exact hvalue

/-- **In the later dialect nothing is chosen without a value.** -/
theorem valued_of_ofArguments {arguments : List Text}
    (h : Choices.ofArguments .later arguments = .ok (input, choices)) :
    choices.Valued ∧ choices.input = some input := by
  rw [Choices.ofArguments] at h
  split at h
  · cases h
  obtain ⟨made, hchoose, h⟩ := exists_of_bind_eq_ok h
  have hfresh : Choices.Valued {} := ⟨nofun, nofun, nofun, nofun⟩
  have hmade := hfresh.choose hchoose
  split at h
  · rename_i found hfound _
    cases h
    exact ⟨hmade, hfound⟩
  · cases h

/-! ### Endings -/

/-- The paths that were given for the input, the template and the result. -/
def Choices.paths (input : Given Text) (choices : Choices) : List (Given Text) :=
  input :: (choices.template.toList ++ choices.output.toList)

/-- Whether a run has a log file or none, and a document from its input. -/
structure Reads (input : Given Text) (choices : Choices) (world : World) (log : Option Place)
    (document : Text) : Prop where
  opened : choices.logAt world = .ok log
  input : ∃ path, input = .value path ∧
    inputAt path world.stdin (world.disk.touched log) world.here = .ok (.ok document)

/-- What stops a run without a report. -/
inductive Leaves [Languages] [Converter] (input : Given Text) (choices : Choices) (world : World) :
    Trouble → Prop
  /-- The log file cannot be opened. -/
  | log {trouble : Trouble} (h : choices.logAt world = .error trouble) :
      Leaves input choices world trouble
  /-- A value is missing. -/
  | nothing (h : .nothing ∈ choices.paths input ∨ choices.dayMinutes = .nothing) :
      Leaves input choices world .nothingGiven
  | zero {path : Text} (hpath : .value path ∈ choices.paths input)
      (hzero : path.contains '\x00' = true) : Leaves input choices world .zeroInside
  | input {log : Option Place} {path : Text} (hlog : choices.logAt world = .ok log)
      (hinput : input = .value path)
      (hfound : inputFound path world.stdin (world.disk.touched log) world.here = .undecodable) :
      Leaves input choices world .undecodable
  /-- The input is a standard input that is not there. -/
  | closed {log : Option Place} {path : Text} (hlog : choices.logAt world = .ok log)
      (hinput : input = .value path)
      (hfound : inputFound path world.stdin (world.disk.touched log) world.here = .closed) :
      Leaves input choices world .noInput
  | template {log : Option Place} {disk : Disk} {path : Text} {bytes : ByteArray}
      (hlog : choices.logAt world = .ok log) (hdisk : world.disk.SameBut log disk)
      (htemplate : choices.template = some (.value path))
      (hread : disk.read world.here path = .ok bytes) (htext : Text.ofFile? bytes = none) :
      Leaves input choices world .undecodable
  /-- The converter fails for the description of an event that is to stand on a page. -/
  | conversion {log : Option Place} {document description words : Text} {events : List Event}
      {event : Event} (hreads : Reads input choices world log document)
      (hevents : eventsOrFault choices.policy document = .ok events)
      (hformat : choices.format = some .page) (hevent : event ∈ events)
      (hdescription : event.description = some description)
      (hwords : Converter.convert description = .error words) :
      Leaves input choices world (.conversion words)

/-- What always keeps a run from its document without a report. -/
inductive Unread (input : Given Text) (choices : Choices) (world : World) : Trouble → Prop
  | log {trouble : Trouble} (h : choices.logAt world = .error trouble) :
      Unread input choices world trouble
  | nothing {log : Option Place} (hlog : choices.logAt world = .ok log)
      (hinput : input = .nothing) : Unread input choices world .nothingGiven
  | input {log : Option Place} {path : Text} {trouble : Trouble}
      (hlog : choices.logAt world = .ok log) (hinput : input = .value path)
      (h : inputAt path world.stdin (world.disk.touched log) world.here = .error trouble) :
      Unread input choices world trouble

/-- What fails in a run, in the words of the report. -/
inductive Fails [Languages] [Converter] (input : Given Text) (choices : Choices) (world : World) :
    Text → Prop
  | input {log : Option Place} {path : Text} {refusal : Disk.Refusal}
      (hlog : choices.logAt world = .ok log) (hinput : input = .value path)
      (hfound : inputFound path world.stdin (world.disk.touched log) world.here =
        .refused refusal) :
      Fails input choices world (refusedInput path refusal)
  /-- A block is no event, and that ends the reading. -/
  | block {log : Option Place} {document : Text} {fault : Fault}
      (hreads : Reads input choices world log document)
      (hevents : eventsOrFault choices.policy document = .error fault) :
      Fails input choices world fault.message
  /-- The events cannot be laid out, or not be rendered in the template that is found. -/
  | rendering {log : Option Place} {document : Text} {events : List Event} {format : Format}
      {disk : Disk} {trouble : Trouble} (hreads : Reads input choices world log document)
      (hevents : eventsOrFault choices.policy document = .ok events)
      (hformat : choices.format = some format) (hdisk : world.disk.SameBut log disk)
      (hlaid : choices.laidOut format disk world.here events = .error trouble)
      (hfault : trouble.isIn .any = true) : Fails input choices world trouble.message
  /-- The rendering cannot be written, or not all of it. -/
  | output {log : Option Place} {document text path : Text} {events : List Event} {format : Format}
      {loading disk after : Disk} {refusal : Disk.Refusal}
      (hreads : Reads input choices world log document)
      (hevents : eventsOrFault choices.policy document = .ok events)
      (hformat : choices.format = some format) (hloading : world.disk.SameBut log loading)
      (hlaid : choices.laidOut format loading world.here events = .ok text)
      (houtput : choices.output = some (.value path)) (hdisk : world.disk.SameBut log disk)
      (hwrite : disk.write world.here path (Text.toBytes text) = (some refusal, after)) :
      Fails input choices world (refusedOutput path refusal)

/-- Whether a world is another one in which a result has been written to where it was to go. -/
def Written (choices : Choices) (bytes : ByteArray) (ready after : World) : Prop :=
  match choices.output with
  | none => after = ready.print bytes
  | some given => ∃ path disk note, given = .value path ∧
      ready.disk.write ready.here path bytes = (none, disk) ∧
      after = Journal.note note { ready with disk }

/-- How a run without typesetting ends, and the world that it leaves. -/
inductive Ends [Languages] [Converter] (means : Means) (input : Given Text) (choices : Choices)
    (world : World) : Except Trouble Ending × World → Prop
  /-- Nothing was chosen to be done, and there is help and a complaint. -/
  | idle (hformat : choices.format = none) (hdump : choices.dump = false) :
      Ends means input choices world
        (.ok (.code 1), world.printError (means.help ++ "\n" ++ nothingChosen))
  | reported {words before : Text} {after : World} (hfails : Fails input choices world words)
      (hbefore : world.stderr <+: before)
      (hreport : (before ++ ("Greška: " ++ words ++ "\n") : Text) <+: after.stderr) :
      Ends means input choices world (.ok (.code 1), after)
  /-- The events were read and at most listed, as was chosen. -/
  | listed {log : Option Place} {document : Text} {events : List Event} {after : World}
      (hreads : Reads input choices world log document)
      (hevents : eventsOrFault choices.policy document = .ok events)
      (hformat : choices.format = none)
      (hafter : Noted log (world.print (choices.listed events)) after) :
      Ends means input choices world (.ok (.code 0), after)
  /-- The events were read and rendered, and the rendering was written. -/
  | rendered {log : Option Place} {document text : Text} {events : List Event} {format : Format}
      {loading ready after : World} (hreads : Reads input choices world log document)
      (hevents : eventsOrFault choices.policy document = .ok events)
      (hformat : choices.format = some format)
      (hloading : Noted log (world.print (choices.listed events)) loading)
      (hlaid : choices.laidOut format loading.disk world.here events = .ok text)
      (hready : Noted log (world.print (choices.listed events)) ready)
      (hwritten : Written choices (Text.toBytes text) ready after) :
      Ends means input choices world (.ok (.code 0), after)
  /-- A trouble has stopped the run without a report. -/
  | left {trouble : Trouble} {after : World} (h : Leaves input choices world trouble) :
      Ends means input choices world (.error trouble, after)

theorem mem_paths_of_template {given : Given Text} (h : choices.template = some given) :
    given ∈ choices.paths input := by
  simp [Choices.paths, h]

theorem mem_paths_of_output {given : Given Text} (h : choices.output = some given) :
    given ∈ choices.paths input := by
  simp [Choices.paths, h]

section

variable [Languages] [Converter]

/-- The ending of a run that has started. -/
def ended (left : Except Trouble Nat × World) : Except Trouble Ending × World :=
  (left.1.map .code, left.2)

/-- A run that reports a failure ends like that. -/
theorem ends_failWith {words : Text} (hfails : Fails input choices world words)
    (hready : world.stderr <+: ready.stderr) :
    Ends means input choices world (ended (failWith words ready)) :=
  .reported hfails hready (World.told_note_error _ ready)

/-- What no step answers for in a rendering stops the run. -/
theorem leaves_of_laidOut {document : Text} {format : Format} {disk : Disk} {events : List Event}
    {trouble : Trouble} (hreads : Reads input choices world log document)
    (hevents : eventsOrFault choices.policy document = .ok events)
    (hformat : choices.format = some format) (hdisk : world.disk.SameBut log disk)
    (h : choices.laidOut format disk world.here events = .error trouble)
    (hno : ¬ trouble.isIn .any = true) : Leaves input choices world trouble := by
  rw [Choices.laidOut] at h
  split at h
  · rename_i options hoptions
    obtain hloaded | ⟨rfl, -, event, hevent, description, words, hdescription, hwords, rfl⟩ :=
      cases_of_laidOutIn h hno
    · obtain ⟨path, hpath, ⟨rfl, hzero⟩ | ⟨rfl, bytes, hread, htext⟩⟩ :=
        Template.cases_of_loaded hloaded hno
      · exact .zero (mem_paths_of_template (template_of_optionsFor hoptions hpath)) hzero
      · exact .template hreads.opened hdisk (template_of_optionsFor hoptions hpath) hread htext
    · exact .conversion hreads hevents hformat hevent hdescription hwords
  · rename_i other hoptions
    obtain ⟨rfl, hnothing⟩ := cases_of_optionsFor_error hoptions
    cases htimetable : (timetableOrFault events).mapError Trouble.fault with
    | error fault =>
      rw [htimetable] at h
      rw [← Except.error.inj h] at hno
      exact absurd (isIn_any_of_mapError htimetable) hno
    | ok timetable =>
      rw [htimetable] at h
      rw [← Except.error.inj h]
      exact .nothing (hnothing.imp_left mem_paths_of_template)

/-- A rendering ends a run. -/
theorem ends_conclude {document : Text} {events : List Event} {format : Format} {loading : World}
    (hreads : Reads input choices world log document)
    (hevents : eventsOrFault choices.policy document = .ok events)
    (hformat : choices.format = some format)
    (hloading : Noted log (world.print (choices.listed events)) loading)
    (hready : Noted log (world.print (choices.listed events)) ready) :
    Ends means input choices world
      (ended (conclude choices format (choices.laidOut format loading.disk world.here events)
        ready)) := by
  cases hlaid : choices.laidOut format loading.disk world.here events with
  | error trouble =>
    rw [conclude]
    split
    · rename_i hfault
      exact ends_failWith (.rendering hreads hevents hformat hloading.disk hlaid hfault)
        hready.stderr
    · rename_i hno
      exact .left (leaves_of_laidOut hreads hevents hformat hloading.disk hlaid hno)
  | ok text =>
    have hdone : ∀ after, Written choices (Text.toBytes text) ready after →
        Ends means input choices world (.ok (.code 0), after) := fun after =>
      .rendered hreads hevents hformat hloading hlaid hready
    rw [conclude]
    rcases houtput : choices.output with _ | _ | path
    · rw [deliver_stdout format _ houtput]
      exact hdone _ (by rw [Written, houtput])
    · rw [deliver_nothing format _ houtput]
      exact .left (.nothing (.inl (mem_paths_of_output houtput)))
    · cases hzero : path.contains '\x00' with
      | true =>
        rw [deliver_zero format _ houtput hzero]
        exact .left (.zero (mem_paths_of_output houtput) hzero)
      | false =>
        rw [deliver_file format _ houtput hzero]
        rcases hwrite : ready.disk.write ready.here path (Text.toBytes text) with ⟨_ | refusal, disk⟩
        · refine hdone _ ?_
          rw [Written, houtput]
          exact ⟨path, disk, _, rfl, hwrite, rfl⟩
        · rw [show ready.here = world.here from hready.here] at hwrite
          exact ends_failWith (.output hreads hevents hformat hloading.disk hlaid houtput
            hready.disk hwrite) hready.stderr

theorem ends_processDocument {document : Text} {opened : World} (means : Means)
    (hpdf : choices.pdf = false) (hreads : Reads input choices world log document)
    (hopened : Noted log world opened) :
    Ends means input choices world (ended (processDocument means choices document opened)) := by
  cases hevents : eventsOrFault choices.policy document with
  | error fault =>
    obtain ⟨ready, hready, hprocess⟩ :=
      exists_processDocument_failure means hpdf hevents hopened.log
    rw [hprocess]
    exact ends_failWith (.block hreads hevents) (hopened.trans hready).stderr
  | ok events =>
    have hprinted := hopened.print (choices.listed events)
    cases hformat : choices.format with
    | none =>
      obtain ⟨ready, hready, hprocess⟩ :=
        exists_processDocument_listing means hevents hformat hopened.log
      rw [hprocess]
      exact .listed hreads hevents hformat (hprinted.trans hready)
    | some format =>
      obtain ⟨loading, ready, hloading, hready, -, hprocess⟩ :=
        exists_processDocument_rendering means hpdf hevents hformat hopened.log
      rw [hprocess, hopened.here]
      exact ends_conclude hreads hevents hformat (hprinted.trans hloading) (hprinted.trans hready)

theorem ends_process (means : Means) (hpdf : choices.pdf = false) :
    Ends means input choices world (ended (process means input choices world)) := by
  cases hlog : choices.logAt world with
  | error trouble =>
    obtain ⟨after, hprocess⟩ := exists_process_of_logAt_error means input hlog
    rw [hprocess]
    exact .left (.log hlog)
  | ok log =>
    obtain ⟨opened, hopened, hdisk, hprocess⟩ := exists_process means input hlog
    rw [hprocess, hdisk]
    cases input with
    | nothing => exact .left (.nothing (.inl List.mem_cons_self))
    | value path =>
      dsimp only
      cases hzero : path.contains '\x00' with
      | true =>
        rw [inputAt, if_pos hzero]
        exact .left (.zero List.mem_cons_self hzero)
      | false =>
        have hinput : inputAt path world.stdin (world.disk.touched log) world.here = _ :=
          if_neg (by rw [hzero]; exact Bool.false_ne_true)
        cases hfound : inputFound path world.stdin (world.disk.touched log) world.here with
        | text document =>
          rw [hfound] at hinput
          rw [hinput]
          exact ends_processDocument means hpdf ⟨hlog, path, rfl, hinput⟩ hopened
        | undecodable =>
          rw [hinput, hfound]
          exact .left (.input hlog rfl hfound)
        | refused refusal =>
          rw [hinput, hfound]
          exact ends_failWith (.input hlog rfl hfound) hopened.stderr
        | closed =>
          rw [hinput, hfound]
          exact .left (.closed hlog rfl hfound)

/-- A trouble with the log file or the input stops the run at once. -/
theorem process_of_unread {trouble : Trouble} (means : Means)
    (h : Unread input choices world trouble) :
    (process means input choices world).1 = .error trouble := by
  cases h with
  | log hlog =>
    obtain ⟨after, hprocess⟩ := exists_process_of_logAt_error means input hlog
    rw [hprocess]
  | nothing hlog hinput =>
    obtain ⟨opened, -, -, hprocess⟩ := exists_process means input hlog
    rw [hprocess, hinput]
  | input hlog hinput h =>
    obtain ⟨opened, -, hdisk, hprocess⟩ := exists_process means input hlog
    rw [hprocess, hdisk, hinput]
    dsimp only
    rw [h]

/-! ### Runs -/

theorem run_eq {arguments : List Text} (means : Means)
    (harguments : Choices.ofArguments means.dialect arguments = .ok (input, choices))
    (hpdf : choices.pdf = false) (hchosen : ¬ (choices.format = none ∧ choices.dump = false))
    (world : World) :
    run means arguments world = ended (process means input choices world) := by
  have hidle : ¬ (choices.format.isNone && !choices.dump) = true := by
    simpa using hchosen
  rw [run, harguments]
  dsimp only
  rw [if_neg hidle, hpdf, Bool.false_and, if_neg Bool.false_ne_true]
  cases hprocess : process means input choices world with
  | mk result after =>
    cases result with
    | ok code => exact Action.bind_of_ok hprocess
    | error trouble => exact Action.bind_of_error hprocess

/-- **A run without typesetting ends with code 0 and everything done, with code 1 and a report, or
not at all, for one of a few troubles.** A log file that cannot be opened and an input that is no
text always stop it like that. In the later dialect no value is missing. -/
theorem run_ends {arguments : List Text} (means : Means) (world : World)
    (harguments : Choices.ofArguments means.dialect arguments = .ok (input, choices))
    (hpdf : choices.pdf = false) :
    Ends means input choices world (run means arguments world) ∧
      (∀ trouble, ¬ (choices.format = none ∧ choices.dump = false) →
        Unread input choices world trouble → (run means arguments world).1 = .error trouble) ∧
      (means.dialect = .later →
        .nothing ∉ choices.paths input ∧ choices.dayMinutes ≠ .nothing) := by
  refine ⟨?_, fun trouble hchosen hunread => ?_, fun hdialect => ?_⟩
  · by_cases hidle : choices.format = none ∧ choices.dump = false
    · have hcomplaint : run means arguments world =
          (.ok (.code 1), world.printError (means.help ++ "\n" ++ nothingChosen)) := by
        rw [run, harguments]
        dsimp only
        rw [if_pos (by rw [hidle.1, hidle.2]; rfl)]
        rfl
      rw [hcomplaint]
      exact .idle hidle.1 hidle.2
    · rw [run_eq means harguments hpdf hidle]
      exact ends_process means hpdf
  · rw [run_eq means harguments hpdf hchosen, ended, process_of_unread means hunread]
    rfl
  · rw [hdialect] at harguments
    obtain ⟨hvalued, hinput⟩ := valued_of_ofArguments harguments
    refine ⟨fun hnothing => ?_, hvalued.dayMinutes⟩
    rw [Choices.paths, List.mem_cons, List.mem_append, Option.mem_toList, Option.mem_toList]
      at hnothing
    obtain hnothing | hnothing | hnothing := hnothing
    · exact hvalued.input (by rw [hinput, hnothing])
    · exact hvalued.template hnothing
    · exact hvalued.output hnothing

end

section

attribute [local instance] Languages.french
attribute [local instance] Converter.paragraph

def undecodableDisk : Disk := { entries := [(["r.txt"], .file { contents := ⟨#[255]⟩ })] }

def noMeans : Means where
  shop := ⟨fun _ _ _ => .error .missing, .ofText "/scratch"⟩
  clock _ := []
  help := []
  dialect := .later

theorem run_ends_undecodable :
    Ends noMeans (.value "r.txt") { input := some (.value "r.txt"), dump := true }
        (.ofDisk undecodableDisk [])
        (run noMeans ["-i", "r.txt", "-d"] (.ofDisk undecodableDisk [])) ∧
      (run noMeans ["-i", "r.txt", "-d"] (.ofDisk undecodableDisk [])).1 = .error .undecodable :=
  have harguments : Choices.ofArguments .later ["-i", "r.txt", "-d"] =
      .ok (.value "r.txt", { input := some (.value "r.txt"), dump := true }) := rfl
  have h := run_ends noMeans (.ofDisk undecodableDisk []) harguments rfl
  ⟨h.1, h.2.1 _ (by decide) (.input rfl rfl rfl)⟩

/-- Not every run that is started ends with a code: an input that is no text lets a trouble out. -/
theorem not_forall_run_ends_with_code :
    ¬ ∀ (means : Means) (arguments : List Text) (world : World),
      (∃ input choices, Choices.ofArguments means.dialect arguments = .ok (input, choices) ∧
        choices.pdf = false) →
      ∃ code, (run means arguments world).1 = .ok (.code code) ∧ (code = 0 ∨ code = 1) := by
  intro h
  obtain ⟨code, hcode, -⟩ := h noMeans ["-i", "r.txt", "-d"] (.ofDisk undecodableDisk [])
    ⟨_, _, rfl, rfl⟩
  have hraised : (run noMeans ["-i", "r.txt", "-d"] (.ofDisk undecodableDisk [])).1 =
      .error .undecodable := rfl
  rw [hraised] at hcode
  cases hcode

end

end CommandLine

end Agenda
