import Agenda.Proofs.CommandLine.Ending

/-!
# What a run writes

A run that renders a document without typesetting writes all of the rendering or nothing, and
nothing else goes where the rendering goes (`run_delivers`). What has to be written is what the
plain pipeline makes of the document and of the template as the run finds it. As the lines of a log
file are written in between, neither the template nor the path of the result may lead to that file.
-/

namespace Agenda

/-! ### Templates that are found again -/

/-- Two ways to load a template that come to the same: the same text, or a fault each. -/
def LoadedAlike (first second : Except Trouble Text) : Prop :=
  (∃ template, first = .ok template ∧ second = .ok template) ∨
    ∃ trouble other, first = .error trouble ∧ trouble.isIn .any = true ∧
      second = .error other ∧ other.isIn .any = true

/-- A template is loaded alike from disks in which its path is opened alike. -/
theorem Template.loadedAlike {path : Option Text} {disk other : Disk} {here : Place}
    (format : Format) (hzero : ∀ chosen, path = some chosen → chosen.contains '\x00' = false)
    (halike : ∀ chosen, path = some chosen → disk.OpensAlike other here chosen)
    (htext : ∀ chosen, path = some chosen → ∀ bytes, disk.read here chosen = .ok bytes →
      Text.ofFile? bytes ≠ none) :
    LoadedAlike (loaded path format.templateName disk here)
      (loaded path format.templateName other here) := by
  cases path with
  | none => exact .inl (by cases format <;> exact ⟨_, rfl, rfl⟩)
  | some chosen =>
    have halike := halike chosen rfl
    rw [loaded, loaded, World.textAt, World.textAt, hzero chosen rfl]
    simp only [Bool.false_eq_true, if_false]
    cases hread : disk.read here chosen with
    | ok bytes =>
      rw [halike.read_eq_ok hread]
      obtain ⟨text, htext⟩ := Option.ne_none_iff_exists'.mp (htext chosen rfl bytes hread)
      dsimp only
      rw [htext]
      exact .inl ⟨text, rfl, rfl⟩
    | error refusal =>
      cases hother : other.read here chosen with
      | ok bytes => cases hread.symm.trans (halike.read_eq_ok_iff.mp hother)
      | error refusal' =>
        exact .inr ⟨_, _, rfl, Family.within_any _, rfl, Family.within_any _⟩

/-- Two ways to render that come to the same: the same text, a fault each, or the same failure of
the converter. -/
inductive RenderedAlike : Except Trouble Text → Except Trouble Text → Prop
  | made (text : Text) : RenderedAlike (.ok text) (.ok text)
  | failed {trouble other : Trouble} (h : trouble.isIn .any = true) (h' : other.isIn .any = true) :
      RenderedAlike (.error trouble) (.error other)
  | unconverted (words : Text) :
      RenderedAlike (.error (.conversion words)) (.error (.conversion words))

section

variable [Converter]

/-- Without a template nothing is rendered, and that is a fault if the lack of the template is one.
-/
theorem exists_laidOutIn_error (format : Format) (dayMinutes : Int) {trouble : Trouble}
    (htrouble : trouble.isIn .any = true) (events : List Event) :
    ∃ other, laidOutIn format dayMinutes (.error trouble) events = .error other ∧
      other.isIn .any = true := by
  have hfailed : ∃ other,
      laidOutIn format dayMinutes (.error trouble) events = .error other := by
    rw [laidOutIn]
    cases timetableOrFault events with
    | error fault => exact ⟨_, rfl⟩
    | ok timetable =>
      have hrendered : ∃ other,
          renderedIn format dayMinutes (.error trouble) timetable = .error other := by
        rw [renderedIn]
        split <;> exact ⟨_, rfl⟩
      exact hrendered
  obtain ⟨other, hother⟩ := hfailed
  refine ⟨other, hother, ?_⟩
  by_contra hno
  obtain heq | ⟨-, ⟨template, hloaded⟩, -⟩ := cases_of_laidOutIn hother hno
  · rw [Except.error.inj heq] at htrouble
    exact hno htrouble
  · cases hloaded

/-- With templates that are loaded alike, events are rendered alike. -/
theorem LoadedAlike.laidOutIn {first second : Except Trouble Text} (h : LoadedAlike first second)
    (format : Format) (dayMinutes : Int) (events : List Event) :
    RenderedAlike (laidOutIn format dayMinutes first events)
      (laidOutIn format dayMinutes second events) := by
  obtain ⟨template, rfl, rfl⟩ | ⟨trouble, other, rfl, htrouble, rfl, hother⟩ := h
  · cases hlaid : Agenda.laidOutIn format dayMinutes (.ok template) events with
    | ok text => exact .made text
    | error trouble =>
      by_cases hfault : trouble.isIn .any = true
      · exact .failed hfault hfault
      · obtain hloaded | ⟨-, -, _, -, _, words, -, -, rfl⟩ := cases_of_laidOutIn hlaid hfault
        · cases hloaded
        · exact .unconverted words
  · obtain ⟨last, hlast, hfault⟩ := exists_laidOutIn_error format dayMinutes htrouble events
    obtain ⟨last', hlast', hfault'⟩ := exists_laidOutIn_error format dayMinutes hother events
    rw [hlast, hlast']
    exact .failed hfault hfault'

end

namespace CommandLine

open World (Noted Told)

variable {means : Means} {input : Text} {choices : Choices} {format : Format}
  {options : Page.Options} {output : Option Text} {log : Option Place} {world after : World}

/-- What was chosen for a rendering, with a value for everything. -/
structure Chosen (choices : Choices) (format : Format) (options : Page.Options) : Prop where
  renders : choices.format = some format
  template : choices.template = options.template.map .value
  dayMinutes : format = .page → choices.dayMinutes = .value options.dayMinutes

theorem optionsWith_of_chosen (h : Chosen choices format options) (dayMinutes : Int) :
    choices.optionsWith dayMinutes =
      if dayMinutes ≤ 0 then .ok { dayMinutes } else .ok ⟨options.template, dayMinutes⟩ := by
  rw [Choices.optionsWith, h.template]
  cases options.template <;> rfl

/-- Events are rendered under what was chosen. -/
theorem laidOut_of_chosen [Converter] (h : Chosen choices format options) (disk : Disk) (here : Place)
    (events : List Event) :
    choices.laidOut format disk here events =
      laidOutIn format options.dayMinutes
        (Template.loaded options.template format.templateName disk here) events := by
  rw [Choices.laidOut, Choices.optionsFor]
  by_cases hpage : format = .page
  · rw [if_pos hpage, h.dayMinutes hpage]
    dsimp only
    rw [optionsWith_of_chosen h]
    by_cases hlength : options.dayMinutes ≤ 0
    · -- The length of a day is looked at before the template.
      rw [if_pos hlength]
      dsimp only
      rw [laidOutIn, laidOutIn]
      refine bind_congr fun timetable => ?_
      rw [renderedIn, renderedIn, if_pos ⟨hpage, hlength⟩, if_pos ⟨hpage, hlength⟩]
    · rw [if_neg hlength]
  · rw [if_neg hpage, optionsWith_of_chosen h, if_neg (by decide)]
    dsimp only
    rw [laidOutIn, laidOutIn]
    refine bind_congr fun timetable => ?_
    rw [renderedIn, renderedIn, if_neg (fun h => hpage h.1), if_neg (fun h => hpage h.1)]
    cases format with
    | page => exact absurd rfl hpage
    | picture => rfl
    | booklet => rfl

/-! ### Results -/

/-- Whether a path can be handed to the system and does not lead to the log file. -/
structure Apart (log : Option Place) (world : World) (path : Text) : Prop where
  zero : path.contains '\x00' = false
  avoids : ∀ place, log = some place → world.disk.Avoids world.here path place

/-- Whether nothing was written but notes, and a path is opened as it was. -/
structure Untouched (log : Option Place) (world after : World) (path : Text) : Prop where
  disk : world.disk.SameBut log after.disk
  opens : world.disk.OpensAlike after.disk world.here path

/-- Whether some bytes, and nothing else but notes, were written to the file at a place. -/
structure Filled (log : Option Place) (world after : World) (place : Place) (bytes : ByteArray) :
    Prop where
  file : ∃ file, after.disk.get? place = some (.file file) ∧ file.contents = bytes
  others : ∀ p, ¬ world.disk.SameFile place p →
    (∀ l, log = some l → ¬ world.disk.SameFile l p) → after.disk.get? p = world.disk.get? p

/-- Whether nothing was written to where the rendering was to go. -/
def Withheld (log : Option Place) (output : Option Text) (world after : World) : Prop :=
  match output with
  | none => after.stdout = world.stdout
  | some path => Untouched log world after path

/-- How a run ends and what it has written for what its pipeline has come to: all of the rendering,
or nothing. Only where a file has been opened and there is no room in it, a part is left there. -/
inductive Delivered (log : Option Place) (world after : World) :
    Option Text → Except Trouble (Outcome Trouble Text) → Except Trouble Ending → Prop
  /-- The pipeline has failed, and nothing was written. -/
  | withheld {output : Option Text} {trouble : Trouble} (h : Withheld log output world after) :
      Delivered log world after output (.ok (.failure trouble)) (.ok (.code 1))
  /-- The converter has stopped the pipeline, and the run with it. -/
  | left {output : Option Text} {words : Text} (h : Withheld log output world after) :
      Delivered log world after output (.error (.conversion words)) (.error (.conversion words))
  | printed {text : Text} (h : after.stdout = world.stdout ++ Text.toBytes text) :
      Delivered log world after none (.ok (.success text)) (.ok (.code 0))
  | refused {path text : Text} {reason : Disk.Reason}
      (hopened : world.disk.findWritable world.here path = .error reason)
      (h : Untouched log world after path) :
      Delivered log world after (some path) (.ok (.success text)) (.ok (.code 1))
  | written {path text : Text} {place : Place}
      (hopened : world.disk.findWritable world.here path = .ok place)
      (hroom : ∀ room reason, world.disk.limits.room place = some (room, reason) →
        (Text.toBytes text).size ≤ room)
      (h : Filled log world after place (Text.toBytes text)) :
      Delivered log world after (some path) (.ok (.success text)) (.ok (.code 0))
  | cut {path text : Text} {place : Place} {room : Nat} {reason : Disk.Reason}
      (hopened : world.disk.findWritable world.here path = .ok place)
      (hroom : world.disk.limits.room place = some (room, reason))
      (hless : room < (Text.toBytes text).size)
      (h : Filled log world after place ((Text.toBytes text).extract 0 room)) :
      Delivered log world after (some path) (.ok (.success text)) (.ok (.code 1))

/-- Where the rendering goes to the standard output, the listing does not. -/
theorem listed_of_stdout (events : List Event) (hformat : choices.format = some format)
    (houtput : choices.output = output.map .value) (hnone : output = none) :
    choices.listed events = .empty := by
  rw [Choices.listed, hformat, Choices.outputPath, houtput, hnone]
  simp

theorem Apart.untouched {path : Text} (h : Apart log world path)
    (hafter : world.disk.SameBut log after.disk) : Untouched log world after path :=
  ⟨hafter, hafter.opensAlike h.avoids⟩

/-- Behind nothing but notes, nothing has been written. -/
theorem withheld_of_noted {printed : ByteArray} (hprinted : output = none → printed = .empty)
    (hapart : ∀ path, output = some path → Apart log world path)
    (hafter : Noted log (world.print printed) after) : Withheld log output world after := by
  cases output with
  | none =>
    refine hafter.stdout.trans ?_
    rw [hprinted rfl, World.print_empty]
  | some path => exact (hapart path rfl).untouched hafter.disk

/-- What is written behind the first notes stays behind the last ones. -/
theorem filled_of_store {path : Text} {place : Place} {ready : World}
    (hready : world.disk.SameBut log ready.disk) (hlog : ready.logPlace? = log)
    (h : Apart log world path) (hplace : world.disk.findWritable world.here path = .ok place)
    (bytes : ByteArray) (note : Note) :
    Filled log world (Journal.note note { ready with disk := ready.disk.store place bytes }) place
      bytes := by
  obtain ⟨⟨target, htarget, rfl⟩, -⟩ := Disk.exists_target_of_findWritable hplace
  have halike := hready.opensAlike h.avoids
  obtain ⟨-, hspot⟩ :=
    Disk.exists_target_of_findWritable (halike.findWritable_eq_ok hplace)
  have hstored := Disk.writtenAt_store hspot bytes
  let written : World := { ready with disk := ready.disk.store target.place bytes }
  have hsame (p q : Place) : written.disk.SameFile p q ↔ world.disk.SameFile p q :=
    (hstored.sameFile_iff p q).trans (hready.sameFile_iff p q)
  have hnoted : Noted log written (Journal.note note written) := World.noted_note note hlog
  obtain ⟨file, hfile, hcontents⟩ := Disk.exists_file_store hspot bytes
  refine ⟨⟨file, ?_, hcontents⟩, fun p hp hother => ?_⟩
  · rw [hnoted.disk.get?_eq fun l hl => mt (hsame l _).mp (h.avoids l hl target htarget)]
    exact hfile
  · rw [hnoted.disk.get?_eq fun l hl => mt (hsame l p).mp (hother l hl),
      hstored.others p (mt (hready.sameFile_iff _ p).mp hp), hready.get?_eq hother]

/-- A run that has rendered its document writes all of the rendering; it writes nothing if the file
cannot be opened, and what there is room for in it. -/
theorem delivered_success {printed : ByteArray} {ready : World} (format : Format) (text : Text)
    (houtput : choices.output = output.map .value) (hprinted : output = none → printed = .empty)
    (hapart : ∀ path, output = some path → Apart log world path)
    (hready : Noted log (world.print printed) ready) :
    ∃ code after, deliver choices format (Text.toBytes text) ready = (.ok code, after) ∧
      Delivered log world after output (.ok (.success text)) (.ok (.code code)) := by
  cases output with
  | none =>
    refine ⟨0, _, deliver_stdout format _ houtput ready, .printed ?_⟩
    show ready.stdout ++ _ = _
    rw [hready.stdout, hprinted rfl, World.print_empty]
  | some path =>
    have hpath := hapart path rfl
    have hsame : world.disk.SameBut log ready.disk := hready.disk
    have halike := hsame.opensAlike hpath.avoids
    have hhere : ready.disk.write ready.here path (Text.toBytes text) =
        ready.disk.write world.here path (Text.toBytes text) := by
      rw [show ready.here = world.here from hready.here]
    have hdeliver := deliver_file format (Text.toBytes text) houtput hpath.zero ready
    rw [hhere] at hdeliver
    cases hplace : world.disk.findWritable world.here path with
    | error reason =>
      cases hready' : ready.disk.findWritable world.here path with
      | ok place => cases hplace.symm.trans (halike.findWritable_eq_ok_iff.mp hready')
      | error reason' =>
        have hwrite : ready.disk.write world.here path (Text.toBytes text) =
            (some ⟨reason', path⟩, ready.disk) := by rw [Disk.write, hready']
        rw [hwrite] at hdeliver
        have hnoted := World.noted_note
          ⟨.error, "Greška: " ++ refusedOutput path ⟨reason', path⟩⟩ hready.log
        exact ⟨1, _, hdeliver, .refused hplace (hpath.untouched (hready.trans hnoted).disk)⟩
    | ok place =>
      have hopened := halike.findWritable_eq_ok hplace
      have hlimits : ready.disk.limits = world.disk.limits := halike.limits
      obtain ⟨hroom, hwrite⟩ | ⟨room, reason, hroom, hless, hwrite⟩ :=
        Disk.write_of_opened hopened (Text.toBytes text)
      · rw [hwrite] at hdeliver
        rw [hlimits] at hroom
        exact ⟨0, _, hdeliver, .written hplace hroom
          (filled_of_store hsame hready.log hpath hplace _ _)⟩
      · rw [hwrite] at hdeliver
        rw [hlimits] at hroom
        exact ⟨1, _, hdeliver, .cut hplace hroom hless
          (filled_of_store hsame hready.log hpath hplace _ _)⟩

/-! ### Runs -/

theorem inputAt_touched {path document : Text} {stdin : Stdin} {disk : Disk} {here : Place}
    (h : inputAt path stdin disk here = .ok (.ok document)) (place? : Option Place) :
    inputAt path stdin (disk.touched place?) here = .ok (.ok document) := by
  rw [inputAt, inputFound] at h ⊢
  by_cases hzero : path.contains '\x00' = true
  · rw [if_pos hzero] at h
    cases h
  · rw [if_neg hzero] at h ⊢
    by_cases hdash : path = ['-']
    · rwa [if_pos hdash] at h ⊢
    · rw [if_neg hdash] at h ⊢
      cases hread : disk.read here path with
      | error refusal => rw [hread] at h; cases h
      | ok bytes => rwa [Disk.read_touched hread place?, ← hread]

/-- What is made of a rendering for the standard output leaves the error stream as it is, or adds to
it. -/
theorem stderr_conclude_of_stdout (format : Format) (laid : Except Trouble Text)
    (houtput : choices.output = none) (world : World) :
    world.stderr <+: (conclude choices format laid world).2.stderr := by
  cases laid with
  | ok text =>
    rw [conclude, deliver_stdout format _ houtput]
    exact List.prefix_rfl
  | error trouble =>
    rw [conclude]
    split
    · exact (World.noted_note _ rfl).stderr
    · exact List.prefix_rfl

section

variable [Languages] [Converter]

/-- The pipeline on its own, without a log file, finds the template on the disk as it is. -/
theorem compile_run_ofDisk (policy : Policy) (format : Format) (options : Page.Options)
    (document : Text) (disk : Disk) (here : Place) :
    ((compile policy.name format options).run document (World.ofDisk disk here)).1 =
      Outcome.settled (compiledIn policy format options.dayMinutes
        (Template.loaded options.template format.templateName disk here) document) := by
  have hlog : (World.ofDisk disk here).logPlace? = none := rfl
  obtain ⟨loading, ended, hloading, -, hrun⟩ :=
    exists_compile_run policy format options document hlog
  rw [hrun, hloading.disk.eq_of_none]
  rfl

/-- With a template that is loaded alike, a document that is rendered in a run is what the pipeline
makes of it. -/
theorem exists_delivered {opened : World} (means : Means) (document : Text)
    (hpdf : choices.pdf = false) (hchosen : Chosen choices format options)
    (houtput : choices.output = output.map .value)
    (hloaded : ∀ disk, world.disk.SameBut log disk →
      LoadedAlike (Template.loaded options.template format.templateName world.disk world.here)
        (Template.loaded options.template format.templateName disk world.here))
    (hapart : ∀ path, output = some path → Apart log world path)
    (hopened : Noted log world opened) :
    Delivered log world (processDocument means choices document opened).2 output
      (Outcome.settled (compiledIn choices.policy format options.dayMinutes
        (Template.loaded options.template format.templateName world.disk world.here) document))
      (ended (processDocument means choices document opened)).1 := by
  rw [compiledIn]
  cases hevents : eventsOrFault choices.policy document with
  | error fault =>
    obtain ⟨ready, hready, hprocess⟩ :=
      exists_processDocument_failure means hpdf hevents hopened.log
    have hnoted := World.noted_note ⟨.error, "Greška: " ++ fault.message⟩ hready.log
    have hafter := (hopened.trans hready).trans hnoted
    rw [← World.print_empty world] at hafter
    rw [hprocess]
    exact (Outcome.settled_fault (α := Text) fault).symm ▸
      .withheld (withheld_of_noted (fun _ => rfl) hapart hafter)
  | ok events =>
    obtain ⟨loading, ready, hloading, hready, -, hprocess⟩ :=
      exists_processDocument_rendering means hpdf hevents hchosen.renders hopened.log
    have hprinted := hopened.print (choices.listed events)
    have hafter := hprinted.trans hready
    have hlisted := listed_of_stdout events hchosen.renders houtput
    have halike := (hloaded loading.disk (hprinted.trans hloading).disk).laidOutIn format
      options.dayMinutes events
    have hread : ((.ok events : Except Fault (List Event)).mapError Trouble.fault >>= fun events =>
        laidOutIn format options.dayMinutes
          (Template.loaded options.template format.templateName world.disk world.here) events) =
        laidOutIn format options.dayMinutes
          (Template.loaded options.template format.templateName world.disk world.here) events := rfl
    rw [hprocess, hopened.here, laidOut_of_chosen hchosen, hread]
    generalize laidOutIn format options.dayMinutes
      (Template.loaded options.template format.templateName world.disk world.here) events = first
      at halike ⊢
    generalize laidOutIn format options.dayMinutes
      (Template.loaded options.template format.templateName loading.disk world.here) events = second
      at halike ⊢
    cases halike with
    | made text =>
      obtain ⟨code, after, hdeliver, hdelivered⟩ :=
        delivered_success format text houtput hlisted hapart hafter
      rw [conclude, hdeliver]
      exact hdelivered
    | failed hfault hfault' =>
      rename_i trouble other
      have hnoted := World.noted_note ⟨.error, "Greška: " ++ other.message⟩ hafter.log
      rw [conclude, if_pos hfault', Outcome.settled, if_pos hfault]
      exact .withheld (withheld_of_noted hlisted hapart (hafter.trans hnoted))
    | unconverted words => exact .left (withheld_of_noted hlisted hapart hafter)

/-- Where the rendering goes to the standard output, the listing goes to the error stream. -/
theorem told_of_processDocument {document : Text} {events : List Event} {opened : World}
    (means : Means) (hpdf : choices.pdf = false) (hchosen : Chosen choices format options)
    (houtput : choices.output = none) (hdump : choices.dump = true)
    (hevents : eventsOrFault choices.policy document = .ok events) :
    Told (listing events) opened (processDocument means choices document opened).2 := by
  obtain ⟨loading, ready, -, -, htold, hprocess⟩ :=
    exists_processDocument_rendering means hpdf hevents hchosen.renders rfl
  have haside : choices.ListsAside := by
    refine ⟨hdump, by rw [hchosen.renders]; rfl, ?_⟩
    rw [Choices.outputPath, houtput]
    rfl
  rw [hprocess]
  exact (htold haside).mono (stderr_conclude_of_stdout format _ houtput ready)

/-- **A run that renders a document writes all of what its pipeline has made of it, or nothing**,
and ends with the code for it. What it lists besides a rendering on the standard output goes to the
error stream. -/
theorem run_delivers {arguments : List Text} {input document : Text} (means : Means) (world : World)
    (harguments : Choices.ofArguments means.dialect arguments = .ok (.value input, choices))
    (hpdf : choices.pdf = false) (hchosen : Chosen choices format options)
    (houtput : choices.output = output.map .value) (hlog : choices.logAt world = .ok log)
    (hinput : inputAt input world.stdin world.disk world.here = .ok (.ok document))
    (htemplate : ∀ path, options.template = some path → Apart log world path ∧
      ∀ bytes, world.disk.read world.here path = .ok bytes → Text.ofFile? bytes ≠ none)
    (hapart : ∀ path, output = some path → Apart log world path) :
    ∃ ending after, run means arguments world = (ending, after) ∧
      Delivered log world after output
        ((compile choices.policy.name format options).run document
          (World.ofDisk world.disk world.here)).1 ending ∧
      (output = none → choices.dump = true → ∀ events,
        eventsOrFault choices.policy document = .ok events →
          Told (listing events) world after) := by
  have hstarted : ¬ (choices.format = none ∧ choices.dump = false) := by
    rw [hchosen.renders]
    exact fun h => nomatch h.1
  obtain ⟨opened, hopened, hdisk, hprocess⟩ := exists_process means (.value input) hlog
  rw [hdisk] at hprocess
  dsimp only at hprocess
  rw [inputAt_touched hinput] at hprocess
  have hloaded (disk : Disk) (hsame : world.disk.SameBut log disk) :
      LoadedAlike (Template.loaded options.template format.templateName world.disk world.here)
        (Template.loaded options.template format.templateName disk world.here) :=
    Template.loadedAlike format (fun path hpath => (htemplate path hpath).1.zero)
      (fun path hpath => hsame.opensAlike (htemplate path hpath).1.avoids)
      fun path hpath => (htemplate path hpath).2
  have hrun : run means arguments world = ended (processDocument means choices document opened) := by
    rw [run_eq means harguments hpdf hstarted, hprocess]
  refine ⟨_, (processDocument means choices document opened).2, hrun, ?_, ?_⟩
  · rw [compile_run_ofDisk]
    exact exists_delivered means document hpdf hchosen houtput hloaded hapart hopened
  · rintro rfl hdump events hevents
    exact hopened.trans_told
      (told_of_processDocument means hpdf hchosen houtput hdump hevents)

end

def shortDocument : Text := "date: 2024-11-06 09:00\nduration: 30"

/-- A world with a disk and a document on the standard input. -/
def withInput (disk : Disk) (document : Text) : World :=
  { World.ofDisk disk [] with stdin := .text document }

/-- The choices for a booklet that is written to a file, with a log file. -/
def bookletChoices : Choices where
  input := some (.value "-")
  format := some .booklet
  output := some (.value "out.tex")
  logFile := some "run.log"
  dump := true

theorem ofArguments_booklet :
    Choices.ofArguments .later
        ["-i", "-", "-fabstracts", "-d", "-oout.tex", "--log-file=run.log"] =
      .ok (.value "-", bookletChoices) := rfl

/-- In a world without a directory to go to, a path of one name avoids a file of another name. -/
theorem apart_booklet : Apart (some ["run.log"]) (withInput .empty shortDocument) "out.tex" := by
  refine ⟨rfl, ?_⟩
  rintro _ ⟨⟩ target htarget
  obtain rfl : (⟨["out.tex"], false⟩ : Disk.Target) = target := Except.ok.inj htarget
  decide

section

attribute [local instance] Languages.french
attribute [local instance] Converter.paragraph

theorem run_delivers_booklet :
    ∃ ending after,
      run noMeans ["-i", "-", "-fabstracts", "-d", "-oout.tex", "--log-file=run.log"]
        (withInput .empty shortDocument) = (ending, after) ∧
      Delivered (some ["run.log"]) (withInput .empty shortDocument) after (some "out.tex")
        ((compile bookletChoices.policy.name .booklet {}).run shortDocument
          (World.ofDisk .empty [])).1 ending := by
  have hchosen : Chosen bookletChoices .booklet {} := ⟨rfl, rfl, nofun⟩
  have hlog : bookletChoices.logAt (withInput .empty shortDocument) = .ok (some ["run.log"]) := rfl
  have hinput : inputAt "-" (.text shortDocument) .empty [] = .ok (.ok shortDocument) := rfl
  have houtput : bookletChoices.output = (some "out.tex" : Option Text).map .value := rfl
  have hapart : ∀ path, (some "out.tex" : Option Text) = some path →
      Apart (some ["run.log"]) (withInput .empty shortDocument) path := by
    rintro _ ⟨⟩
    exact apart_booklet
  obtain ⟨ending, after, hrun, hdelivered, -⟩ := run_delivers noMeans
    (withInput .empty shortDocument) ofArguments_booklet rfl hchosen houtput hlog hinput nofun hapart
  exact ⟨ending, after, hrun, hdelivered⟩

def templateDisk (name template : Text) : Disk :=
  { entries := [([name], .file { contents := Text.toBytes template })] }

/-- A document whose first block is no event, for a kind that is written like a placeholder. -/
def placeholderDocument : Text :=
  "type: " ++ Template.placeholder "CALENDAR" ++ "\n---\n" ++ shortDocument

/-- **It is not enough that the log file is not the result.** Where it is the template, a warning
brings the placeholder that the template lacks, and a rendering is written that the pipeline does
not make. Nor does a run end with a code for a path that holds the character zero. -/
theorem not_delivered_of_template_log :
    (¬ ∀ (means : Means) (world : World) (arguments : List Text) (input document : Text)
        (choices : Choices) (format : Format) (options : Page.Options) (output : Option Text)
        (log : Option Place),
      Choices.ofArguments means.dialect arguments = .ok (.value input, choices) →
      choices.pdf = false → Chosen choices format options → choices.output = output.map .value →
      choices.logAt world = .ok log →
      inputAt input world.stdin world.disk world.here = .ok (.ok document) →
      (∀ path, options.template = some path → path.contains '\x00' = false ∧
        ∀ bytes, world.disk.read world.here path = .ok bytes → Text.ofFile? bytes ≠ none) →
      (∀ path, output = some path → Apart log world path) →
      ∃ ending after, run means arguments world = (ending, after) ∧
        Delivered log world after output
          ((compile choices.policy.name format options).run document
            (World.ofDisk world.disk world.here)).1 ending) ∧
      ∀ path ∈ ["-ox\x00y", "-tx\x00y"].map String.toList,
        (run noMeans ["-i", "-", "-ftikz", "-tt.tex", path]
          (withInput (templateDisk "t.tex" (Template.placeholder "CALENDAR")) shortDocument)
            ).1.toOption = none := by
  refine ⟨fun h => ?_, by decide +kernel⟩
  let arguments : List Text :=
    ["-i", "-", "-ftikz", "--skip-invalid", "-tt.log", "--log-file=t.log", "-oout.log"]
  let world := withInput (templateDisk "t.log" "%\n") placeholderDocument
  have hapart : ∀ path, (some "out.log" : Option Text) = some path →
      Apart (some ["t.log"]) world path := by
    rintro _ ⟨⟩
    refine ⟨rfl, ?_⟩
    rintro _ ⟨⟩ target htarget
    obtain rfl : (⟨["out.log"], false⟩ : Disk.Target) = target := Except.ok.inj htarget
    decide
  obtain ⟨ending, after, hrun, hdelivered⟩ :=
    h noMeans world arguments "-" placeholderDocument
      { input := some (.value "-"), format := some .picture, output := some (.value "out.log"),
        template := some (.value "t.log"), logFile := some "t.log", skipInvalid := true }
      .picture ⟨some "t.log", 480⟩ (some "out.log") (some ["t.log"]) rfl rfl ⟨rfl, rfl, nofun⟩ rfl
      rfl rfl
      (by
        rintro _ ⟨⟩
        refine ⟨rfl, fun bytes hbytes => ?_⟩
        obtain rfl := Except.ok.inj hbytes
        decide +kernel)
      hapart
  have hfails : ((compile Policy.skip.name .picture ⟨some "t.log", 480⟩).run placeholderDocument
      (World.ofDisk (templateDisk "t.log" "%\n") [])).1 =
        .ok (.failure (.fault (.missingPlaceholder (Template.placeholder "CALENDAR")))) := by
    decide +kernel
  have hcode : (run noMeans arguments world).1 = .ok (.code 0) := by
    decide +kernel
  rw [hrun] at hcode
  replace hdelivered : Delivered (some ["t.log"]) world after (some "out.log")
    ((compile Policy.skip.name .picture ⟨some "t.log", 480⟩).run placeholderDocument
      (World.ofDisk (templateDisk "t.log" "%\n") [])).1 ending := hdelivered
  rw [hfails, show ending = .ok (.code 0) from hcode] at hdelivered
  cases hdelivered

end

end CommandLine

end Agenda
