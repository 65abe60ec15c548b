import Agenda.Proofs.Typeset.Sweep

/-!
# How typesetting ends

What comes of a source has eight endings (`Produces`): its path or the command cannot be handed to
the system, it cannot be written, the tool is not found or is refused otherwise, what the tool
prints is no text, the tool fails, or it ends well and its output is there or not. Faults of
typesetting stand for four of them. The disk that each of them leaves is told by `Leaves`. The stage
has an outcome just when none of the others is met, and neither the scratch directory nor the
removal of auxiliary files from that disk makes trouble (`runWith_outcome`).
-/

namespace Agenda

namespace World

/-- Writing a file fails for its path, or because the disk refuses it. -/
theorem writeFile_eq (path : Text) (bytes : ByteArray) (refuse : Disk.Refusal → Trouble)
    (world : World) :
    writeFile path bytes refuse world =
      if path.contains '\x00' then (.error .zeroInside, world)
      else match world.disk.write world.here path bytes with
        | (some refusal, disk) => (.error (refuse refusal), { world with disk })
        | (none, disk) => (.ok (), { world with disk }) := by
  cases hzero : path.contains '\x00' with
  | true =>
    rw [writeFile, Action.bind_of_error (checkZero_of_zero hzero world), if_pos rfl]
  | false =>
    rw [writeFile, Action.bind_of_ok (checkZero_of_clean hzero world), Action.bind_get]
    rcases world.disk.write world.here path bytes with ⟨_ | refusal, disk⟩ <;> rfl

theorem forM_checkZero_of_all {words : List Text}
    (h : ∀ word ∈ words, word.contains '\x00' = false) (world : World) :
    words.forM checkZero world = (.ok (), world) := by
  induction words with
  | nil => rfl
  | cons word rest ih =>
    have hcheck := checkZero_of_clean (h word List.mem_cons_self) world
    rw [List.forM_eq_forM, List.forM_cons]
    exact (Action.bind_of_ok hcheck).trans (ih fun other hother => h other (.tail _ hother))

theorem forM_checkZero_of_exists {words : List Text}
    (h : ∃ word ∈ words, word.contains '\x00' = true) (world : World) :
    words.forM checkZero world = (.error .zeroInside, world) := by
  induction words with
  | nil => obtain ⟨word, hword, -⟩ := h; cases hword
  | cons word rest ih =>
    rw [List.forM_eq_forM, List.forM_cons]
    cases hzero : word.contains '\x00' with
    | true => exact Action.bind_of_error (checkZero_of_zero hzero world)
    | false =>
      refine (Action.bind_of_ok (checkZero_of_clean hzero world)).trans (ih ?_)
      obtain ⟨other, hother, h⟩ := h
      cases hother with
      | head => rw [hzero] at h; cases h
      | tail _ hother => exact ⟨other, hother, h⟩

end World

namespace Typeset

variable {shop : Workshop} {options : Options} {source : Disk.Path} {latex : Text}
  {world ready : World} {finished : Finished}

/-! ### The course of the work -/

/-- The note in front of a start of the tool. -/
def commandNote (options : Options) (source : Disk.Path) : Note :=
  ⟨.debug, "Pokrecem: " ++ Text.join " " (options.commandFor source)⟩

/-- Whether the words of the command can be handed to the system. -/
def Options.Sendable (options : Options) (source : Disk.Path) : Prop :=
  ∀ word ∈ options.commandFor source, word.contains '\x00' = false

instance (options : Options) (source : Disk.Path) : Decidable (options.Sendable source) :=
  inferInstanceAs (Decidable (∀ _ ∈ _, _))

/-- Whether the source is written in a world, which makes another one ready for the tool. -/
structure Writes (options : Options) (source : Disk.Path) (latex : Text) (world ready : World) :
    Prop where
  path : source.text.contains '\x00' = false
  written : ∃ disk, world.disk.write world.here source.text (Text.toBytes latex) = (none, disk) ∧
    ready = Journal.note (commandNote options source) { world with disk }

/-- What starting the tool in a ready world gives, if it can be tried. -/
structure Tries (shop : Workshop) (options : Options) (source : Disk.Path) (ready : World)
    (result : Except Disk.Reason Finished) : Prop where
  command : options.Sendable source
  start : start shop options source ready = result

def outputOf (source : Disk.Path) (ready : World) (finished : Finished) :
    Except Disk.Refusal ByteArray :=
  finished.disk.read ready.here (source.withSuffix ".pdf").text

/-- What comes of a source, and the world that is left. -/
inductive Produces (shop : Workshop) (options : Options) (source : Disk.Path) (latex : Text)
    (world : World) : Except Trouble ByteArray → World → Prop
  | badPath (h : source.text.contains '\x00' = true) :
      Produces shop options source latex world (.error .zeroInside) world
  | unwritable {refusal : Disk.Refusal} {disk : Disk} (hpath : source.text.contains '\x00' = false)
      (h : world.disk.write world.here source.text (Text.toBytes latex) = (some refusal, disk)) :
      Produces shop options source latex world
        (.error (.fault (.unwritableSource source.text refusal))) { world with disk }
  | badCommand {ready : World} (hwrites : Writes options source latex world ready)
      (h : ¬ options.Sendable source) :
      Produces shop options source latex world (.error .zeroInside) ready
  | notFound {ready : World} (hwrites : Writes options source latex world ready)
      (htries : Tries shop options source ready (.error .missing)) :
      Produces shop options source latex world (.error (.fault (.missingTool options.command))) ready
  | notStarted {ready : World} {reason : Disk.Reason}
      (hwrites : Writes options source latex world ready)
      (htries : Tries shop options source ready (.error reason)) (hreason : reason ≠ .missing) :
      Produces shop options source latex world (.error (.refused ⟨reason, options.command⟩)) ready
  | garbled {ready : World} {finished : Finished}
      (hwrites : Writes options source latex world ready)
      (htries : Tries shop options source ready (.ok finished))
      (h : Text.ofFile? finished.stdout = none ∨ Text.ofFile? finished.stderr = none) :
      Produces shop options source latex world (.error .undecodable)
        { ready with disk := finished.disk }
  | failed {ready : World} {finished : Finished} {printed : Text}
      (hwrites : Writes options source latex world ready)
      (htries : Tries shop options source ready (.ok finished))
      (hstdout : Text.ofFile? finished.stdout = some printed)
      (hstderr : Text.ofFile? finished.stderr ≠ none) (hcode : finished.code ≠ 0) :
      Produces shop options source latex world
        (.error (.fault (.toolFailed options.command finished.code (lastLines printed))))
        { ready with disk := finished.disk }
  | ended {ready : World} {finished : Finished}
      (hwrites : Writes options source latex world ready)
      (htries : Tries shop options source ready (.ok finished))
      (hstdout : Text.ofFile? finished.stdout ≠ none)
      (hstderr : Text.ofFile? finished.stderr ≠ none) (hcode : finished.code = 0) :
      Produces shop options source latex world
        ((outputOf source ready finished).mapError fun refusal =>
          .fault (.missingOutput (source.withSuffix ".pdf").text refusal))
        { ready with disk := finished.disk }

/-- What a tool that has ended is judged by: what it printed and its code. -/
def judged (options : Options) (finished : Finished) : Except Trouble Unit :=
  match Text.ofFile? finished.stdout, Text.ofFile? finished.stderr with
  | some printed, some _ =>
    if finished.code ≠ 0 then
      .error (.fault (.toolFailed options.command finished.code (lastLines printed)))
    else .ok ()
  | _, _ => .error .undecodable

theorem runTool_of_not_sendable (h : ¬ options.Sendable source) (before : World) :
    runTool shop options source before =
      (.error .zeroInside, Journal.note (commandNote options source) before) := by
  have hzero : ∃ word ∈ options.commandFor source, word.contains '\x00' = true := by
    simpa [Options.Sendable] using h
  exact (Action.bind_of_ok rfl).trans
    (Action.bind_of_error (World.forM_checkZero_of_exists hzero _))

/-- Where its words can be handed to the system, the tool is started in the ready world. -/
theorem runTool_of_sendable (shop : Workshop) (hsend : options.Sendable source) (before : World) :
    let ready := Journal.note (commandNote options source) before
    runTool shop options source before =
      match start shop options source ready with
      | .error reason =>
        (.error (if reason = .missing then .fault (.missingTool options.command)
          else .refused ⟨reason, options.command⟩), ready)
      | .ok finished => (judged options finished, { ready with disk := finished.disk }) := by
  intro ready
  have hnote : World.note .debug (commandNote options source).text before = (.ok (), ready) := rfl
  refine (Action.bind_of_ok hnote).trans ((Action.bind_of_ok
    (World.forM_checkZero_of_all hsend ready)).trans ((Action.bind_get ..).trans ?_))
  rcases start shop options source ready with reason | finished
  · cases reason <;> rfl
  dsimp only
  rw [judged]
  refine (Action.bind_of_ok rfl).trans ?_
  cases hstdout : Text.ofFile? finished.stdout with
  | none =>
    refine Action.bind_of_error ?_
    rw [printedText, hstdout]
    rfl
  | some printed =>
    refine (Action.bind_of_ok (by rw [printedText, hstdout]; rfl)).trans ?_
    cases hstderr : Text.ofFile? finished.stderr with
    | none =>
      refine Action.bind_of_error ?_
      rw [printedText, hstderr]
      rfl
    | some complaint =>
      refine (Action.bind_of_ok (by rw [printedText, hstderr]; rfl)).trans ?_
      dsimp only
      split <;> rfl

theorem readOutput_eq (source : Disk.Path) (world : World) :
    readOutput source world =
      ((world.disk.read world.here (source.withSuffix ".pdf").text).mapError fun refusal =>
        .fault (.missingOutput (source.withSuffix ".pdf").text refusal), world) := by
  rw [readOutput, Action.bind_get]
  cases world.disk.read world.here (source.withSuffix ".pdf").text <;> rfl

/-- A tool that has ended is judged, and then its output is read. -/
theorem produces_of_tries {before : World} (hwrites : Writes options source latex world ready)
    (htries : Tries shop options source ready (.ok finished))
    (hready : Journal.note (commandNote options source) before = ready) :
    Produces shop options source latex world
      ((runTool shop options source >>= fun _ => readOutput source) before).1
      ((runTool shop options source >>= fun _ => readOutput source) before).2 := by
  have hrun := runTool_of_sendable shop htries.command before
  simp only [hready, htries.start, judged] at hrun
  cases hstdout : Text.ofFile? finished.stdout with
  | none =>
    rw [hstdout] at hrun
    rw [Action.bind_of_error hrun]
    exact .garbled hwrites htries (.inl hstdout)
  | some printed =>
    cases hstderr : Text.ofFile? finished.stderr with
    | none =>
      rw [hstdout, hstderr] at hrun
      rw [Action.bind_of_error hrun]
      exact .garbled hwrites htries (.inr hstderr)
    | some complaint =>
      rw [hstdout, hstderr] at hrun
      dsimp only at hrun
      have htext : Text.ofFile? finished.stderr ≠ none := by rw [hstderr]; exact nofun
      by_cases hcode : finished.code = 0
      · rw [if_neg (not_not_intro hcode)] at hrun
        rw [Action.bind_of_ok hrun, readOutput_eq]
        dsimp only
        rw [← outputOf]
        exact .ended hwrites htries (by rw [hstdout]; exact nofun) htext hcode
      · rw [if_pos hcode] at hrun
        rw [Action.bind_of_error hrun]
        exact .failed hwrites htries hstdout htext hcode

/-- **What comes of a source is one of the endings that there are.** -/
theorem produces (shop : Workshop) (options : Options) (source : Disk.Path) (latex : Text)
    (world : World) :
    Produces shop options source latex world (produce shop options source latex world).1
      (produce shop options source latex world).2 := by
  have hfile := World.writeFile_eq source.text (Text.toBytes latex)
    (fun refusal => .fault (.unwritableSource source.text refusal)) world
  cases hpath : source.text.contains '\x00' with
  | true =>
    rw [hpath, if_pos rfl] at hfile
    rw [produce, Action.bind_of_error hfile]
    exact .badPath hpath
  | false =>
    rw [hpath, if_neg Bool.false_ne_true] at hfile
    rcases hwrite : world.disk.write world.here source.text (Text.toBytes latex) with
      ⟨_ | refusal, disk⟩
    case some =>
      rw [hwrite] at hfile
      rw [produce, Action.bind_of_error hfile]
      exact .unwritable hpath hwrite
    case none =>
      rw [hwrite] at hfile
      rw [produce, Action.bind_of_ok hfile]
      have hwrites : Writes options source latex world _ := ⟨hpath, disk, hwrite, rfl⟩
      by_cases hsend : options.Sendable source
      · cases hstart : start shop options source _ with
        | ok finished => exact produces_of_tries hwrites ⟨hsend, hstart⟩ rfl
        | error reason =>
          have hrun := runTool_of_sendable shop hsend { world with disk }
          dsimp only at hrun
          rw [hstart] at hrun
          rw [Action.bind_of_error hrun]
          by_cases hreason : reason = .missing
          · subst hreason
            exact .notFound hwrites ⟨hsend, hstart⟩
          · rw [if_neg hreason]
            exact .notStarted hwrites ⟨hsend, hstart⟩ hreason
      · rw [Action.bind_of_error (runTool_of_not_sendable hsend _)]
        exact .badCommand hwrites hsend

/-! ### Determined endings -/

theorem Writes.unique {ready' : World} (h : Writes options source latex world ready)
    (h' : Writes options source latex world ready') : ready' = ready := by
  obtain ⟨-, disk, hwrite, rfl⟩ := h
  obtain ⟨-, disk', hwrite', rfl⟩ := h'
  obtain rfl := (Prod.mk.inj (hwrite.symm.trans hwrite')).2
  rfl

theorem Tries.unique {result result' : Except Disk.Reason Finished}
    (h : Tries shop options source ready result) (h' : Tries shop options source ready result') :
    result' = result :=
  h'.start.symm.trans h.start

/-- Whether nothing happens to a source that no fault stands for. -/
structure Calm (shop : Workshop) (options : Options) (source : Disk.Path) (latex : Text)
    (world : World) : Prop where
  path : source.text.contains '\x00' = false
  command : ∀ ready, Writes options source latex world ready → options.Sendable source
  /-- The tool is found, or there is none; it is not refused otherwise. -/
  tool : ∀ ready reason, Writes options source latex world ready →
    Tries shop options source ready (.error reason) → reason = .missing
  /-- What the tool prints is text. -/
  printed : ∀ ready finished, Writes options source latex world ready →
    Tries shop options source ready (.ok finished) →
      Text.ofFile? finished.stdout ≠ none ∧ Text.ofFile? finished.stderr ≠ none

/-- Whether the source is written, the tool is started and ends with code 0, and some bytes can be
read where its output has to be. -/
def Makes (shop : Workshop) (options : Options) (source : Disk.Path) (latex : Text) (world : World)
    (bytes : ByteArray) : Prop :=
  ∃ ready finished, Writes options source latex world ready ∧
    Tries shop options source ready (.ok finished) ∧ finished.code = 0 ∧
    outputOf source ready finished = .ok bytes

theorem calm_of_tries {result : Except Disk.Reason Finished}
    (hwrites : Writes options source latex world ready)
    (htries : Tries shop options source ready result)
    (hreason : ∀ reason, result = .error reason → reason = .missing)
    (hprinted : ∀ finished, result = .ok finished →
      Text.ofFile? finished.stdout ≠ none ∧ Text.ofFile? finished.stderr ≠ none) :
    Calm shop options source latex world where
  path := hwrites.path
  command _ _ := htries.command
  tool ready' reason hwrites' htries' := by
    obtain rfl := hwrites.unique hwrites'
    exact hreason reason (htries'.unique htries)
  printed ready' finished hwrites' htries' := by
    obtain rfl := hwrites.unique hwrites'
    exact hprinted finished (htries'.unique htries)

variable {result : Except Trouble ByteArray} {after : World}

/-- Where all is calm, what stops the work is a fault of typesetting. -/
theorem Produces.calm_iff (h : Produces shop options source latex world result after) :
    Calm shop options source latex world ↔
      ∀ trouble, result = .error trouble → trouble.isIn .typesetting = true := by
  cases h with
  | badPath hzero =>
    refine ⟨fun hcalm => ?_, fun hfault => nomatch hfault _ rfl⟩
    rw [hcalm.path] at hzero
    cases hzero
  | unwritable hpath hrefused =>
    have hunwritten (ready : World) : ¬ Writes options source latex world ready := by
      rintro ⟨-, disk, hwrite, -⟩
      cases hrefused.symm.trans hwrite
    refine ⟨?_, fun _ => ⟨hpath, fun ready h => absurd h (hunwritten ready),
      fun ready _ h => absurd h (hunwritten ready), fun ready _ h => absurd h (hunwritten ready)⟩⟩
    rintro - _ ⟨⟩
    rfl
  | badCommand hwrites hsend =>
    exact ⟨fun hcalm => absurd (hcalm.command _ hwrites) hsend, fun hfault => nomatch hfault _ rfl⟩
  | notFound hwrites htries =>
    refine ⟨?_, fun _ => calm_of_tries hwrites htries (fun _ h => (Except.error.inj h).symm) nofun⟩
    rintro - _ ⟨⟩
    rfl
  | notStarted hwrites htries hreason =>
    exact ⟨fun hcalm => absurd (hcalm.tool _ _ hwrites htries) hreason,
      fun hfault => nomatch hfault _ rfl⟩
  | garbled hwrites htries hprinted =>
    refine ⟨fun hcalm => ?_, fun hfault => nomatch hfault _ rfl⟩
    obtain ⟨hstdout, hstderr⟩ := hcalm.printed _ _ hwrites htries
    exact absurd hprinted (not_or.mpr ⟨hstdout, hstderr⟩)
  | failed hwrites htries hstdout hstderr hcode =>
    refine ⟨?_, fun _ => calm_of_tries hwrites htries nofun ?_⟩
    · rintro - _ ⟨⟩
      rfl
    · rintro _ ⟨⟩
      exact ⟨by rw [hstdout]; exact nofun, hstderr⟩
  | ended hwrites htries hstdout hstderr hcode =>
    refine ⟨fun _ trouble htrouble => ?_, fun _ => calm_of_tries hwrites htries nofun ?_⟩
    · revert htrouble
      cases outputOf source _ _ with
      | ok bytes => exact nofun
      | error refusal =>
        rintro ⟨⟩
        rfl
    · rintro _ ⟨⟩
      exact ⟨hstdout, hstderr⟩

/-- The bytes that come of a source are those that are made of it. -/
theorem Produces.eq_ok_iff (h : Produces shop options source latex world result after)
    (bytes : ByteArray) :
    result = .ok bytes ↔
      Calm shop options source latex world ∧ Makes shop options source latex world bytes := by
  constructor
  · intro hresult
    have hcalm := h.calm_iff.mpr fun trouble htrouble => nomatch hresult.symm.trans htrouble
    refine ⟨hcalm, ?_⟩
    cases h with
    | ended hwrites htries _ _ hcode =>
      refine ⟨_, _, hwrites, htries, hcode, ?_⟩
      cases houtput : outputOf source _ _ with
      | error refusal => rw [houtput] at hresult; cases hresult
      | ok found =>
        rw [houtput] at hresult
        rw [Except.ok.inj hresult]
    | _ => cases hresult
  · rintro ⟨hcalm, ready, finished, hwrites, htries, hcode, houtput⟩
    cases h with
    | ended hwrites' htries' _ _ _ =>
      obtain rfl := hwrites'.unique hwrites
      obtain rfl := Except.ok.inj (htries'.unique htries)
      rw [houtput]
      rfl
    | failed hwrites' htries' _ _ hcode' =>
      obtain rfl := hwrites'.unique hwrites
      obtain rfl := Except.ok.inj (htries'.unique htries)
      exact absurd hcode hcode'
    | badPath hzero => rw [hcalm.path] at hzero; cases hzero
    | unwritable _ hrefused =>
      obtain ⟨-, disk, hwrite, -⟩ := hwrites
      cases hrefused.symm.trans hwrite
    | badCommand _ hsend => exact absurd htries.command hsend
    | notFound hwrites' htries' =>
      obtain rfl := hwrites'.unique hwrites
      cases htries'.unique htries
    | notStarted hwrites' htries' _ =>
      obtain rfl := hwrites'.unique hwrites
      cases htries'.unique htries
    | garbled hwrites' htries' hprinted =>
      obtain ⟨hstdout, hstderr⟩ := hcalm.printed _ _ hwrites' htries'
      exact absurd hprinted (not_or.mpr ⟨hstdout, hstderr⟩)

/-! ### The disk that is left -/

/-- Whether a disk is the one that the tool has left, or that of the ready world if the tool was not
started. -/
def Left (shop : Workshop) (options : Options) (source : Disk.Path) (ready : World) (left : Disk) :
    Prop :=
  (∃ finished, Tries shop options source ready (.ok finished) ∧ left = finished.disk) ∨
    (∀ finished, ¬ Tries shop options source ready (.ok finished)) ∧ left = ready.disk

theorem Left.eq_of_tries {finished : Finished} (h : Left shop options source ready left)
    (htries : Tries shop options source ready (.ok finished)) : left = finished.disk := by
  obtain ⟨other, hother, rfl⟩ | ⟨hnone, -⟩ := h
  · rw [Except.ok.inj (htries.unique hother)]
  · exact absurd htries (hnone finished)

theorem Left.eq_of_not_tries (h : Left shop options source ready left)
    (hnone : ∀ finished, ¬ Tries shop options source ready (.ok finished)) : left = ready.disk := by
  obtain ⟨other, hother, -⟩ | ⟨-, rfl⟩ := h
  · exact absurd hother (hnone other)
  · rfl

/-- Where a source has been written, the disk is left as the command left it. -/
theorem Produces.after_of_writes {result : Except Trouble ByteArray}
    (h : Produces shop options source latex world result after)
    (hwrites : Writes options source latex world ready) (hleft : Left shop options source ready left) :
    after = { ready with disk := left } := by
  have hready : left = ready.disk → ready = { ready with disk := left } := by
    rintro rfl
    rfl
  cases h with
  | badPath hzero => rw [hwrites.path] at hzero; cases hzero
  | unwritable _ hrefused =>
    obtain ⟨-, disk, hwrite, -⟩ := hwrites
    cases hrefused.symm.trans hwrite
  | badCommand hwrites' hsend =>
    obtain rfl := hwrites'.unique hwrites
    exact hready (hleft.eq_of_not_tries fun finished h => hsend h.command)
  | notFound hwrites' htries =>
    obtain rfl := hwrites'.unique hwrites
    exact hready (hleft.eq_of_not_tries fun finished h => nomatch htries.unique h)
  | notStarted hwrites' htries _ =>
    obtain rfl := hwrites'.unique hwrites
    exact hready (hleft.eq_of_not_tries fun finished h => nomatch htries.unique h)
  | garbled hwrites' htries _ =>
    obtain rfl := hwrites'.unique hwrites
    rw [hleft.eq_of_tries htries]
  | failed hwrites' htries _ _ _ =>
    obtain rfl := hwrites'.unique hwrites
    rw [hleft.eq_of_tries htries]
  | ended hwrites' htries _ _ _ =>
    obtain rfl := hwrites'.unique hwrites
    rw [hleft.eq_of_tries htries]

/-- Whether a disk is what the work on a source leaves, before the last thing to do. -/
inductive Leaves (shop : Workshop) (options : Options) (source : Disk.Path) (latex : Text)
    (world : World) : Disk → Prop
  | badPath (h : source.text.contains '\x00' = true) :
      Leaves shop options source latex world world.disk
  | refused {refusal : Disk.Refusal} {disk : Disk} (hpath : source.text.contains '\x00' = false)
      (h : world.disk.write world.here source.text (Text.toBytes latex) = (some refusal, disk)) :
      Leaves shop options source latex world disk
  | written {ready : World} {left : Disk} (hwrites : Writes options source latex world ready)
      (hleft : Left shop options source ready left) : Leaves shop options source latex world left

theorem exists_left (shop : Workshop) (options : Options) (source : Disk.Path) (ready : World) :
    ∃ left, Left shop options source ready left := by
  by_cases h : ∃ finished, Tries shop options source ready (.ok finished)
  · obtain ⟨finished, htries⟩ := h
    exact ⟨finished.disk, .inl ⟨finished, htries, rfl⟩⟩
  · exact ⟨ready.disk, .inr ⟨not_exists.mp h, rfl⟩⟩

theorem exists_leaves (shop : Workshop) (options : Options) (source : Disk.Path) (latex : Text)
    (world : World) : ∃ left, Leaves shop options source latex world left := by
  cases hpath : source.text.contains '\x00' with
  | true => exact ⟨_, .badPath hpath⟩
  | false =>
    rcases hwrite : world.disk.write world.here source.text (Text.toBytes latex) with
      ⟨_ | refusal, disk⟩
    · obtain ⟨left, hleft⟩ := exists_left shop options source
        (Journal.note (commandNote options source) { world with disk })
      exact ⟨left, .written ⟨hpath, disk, hwrite, rfl⟩ hleft⟩
    · exact ⟨disk, .refused hpath hwrite⟩

/-- The work on a source leaves one disk, in the directory of the run and with its log file. -/
theorem Produces.disk_of_leaves {left : Disk}
    (h : Produces shop options source latex world result after)
    (hleaves : Leaves shop options source latex world left) :
    after.disk = left ∧ after.here = world.here ∧ after.logPlace? = world.logPlace? := by
  cases hleaves with
  | written hwrites hleft =>
    rw [h.after_of_writes hwrites hleft]
    obtain ⟨-, disk, -, rfl⟩ := hwrites
    have hnoted : World.Noted world.logPlace? { world with disk := disk } _ :=
      World.noted_note (commandNote options source) rfl
    exact ⟨rfl, hnoted.here, hnoted.log⟩
  | badPath hzero =>
    have hnone (ready : World) : ¬ Writes options source latex world ready := by
      rintro ⟨hpath, -⟩
      cases hpath.symm.trans hzero
    cases h with
    | badPath _ => exact ⟨rfl, rfl, rfl⟩
    | unwritable hpath _ => cases hpath.symm.trans hzero
    | badCommand hwrites _ => exact absurd hwrites (hnone _)
    | notFound hwrites _ => exact absurd hwrites (hnone _)
    | notStarted hwrites _ _ => exact absurd hwrites (hnone _)
    | garbled hwrites _ _ => exact absurd hwrites (hnone _)
    | failed hwrites _ _ _ _ => exact absurd hwrites (hnone _)
    | ended hwrites _ _ _ _ => exact absurd hwrites (hnone _)
  | refused hpath hrefused =>
    have hnone (ready : World) : ¬ Writes options source latex world ready := by
      rintro ⟨-, disk, hwrite, -⟩
      cases hrefused.symm.trans hwrite
    cases h with
    | badPath hzero => cases hpath.symm.trans hzero
    | unwritable _ hrefused' =>
      exact ⟨(Prod.mk.inj (hrefused'.symm.trans hrefused)).2, rfl, rfl⟩
    | badCommand hwrites _ => exact absurd hwrites (hnone _)
    | notFound hwrites _ => exact absurd hwrites (hnone _)
    | notStarted hwrites _ _ => exact absurd hwrites (hnone _)
    | garbled hwrites _ _ => exact absurd hwrites (hnone _)
    | failed hwrites _ _ _ _ => exact absurd hwrites (hnone _)
    | ended hwrites _ _ _ _ => exact absurd hwrites (hnone _)

/-! ### The first and the last thing to do -/

/-- Whether a world becomes another one with the scratch directory, if one is needed. -/
def Prepares (shop : Workshop) (options : Options) (world ready : World) : Prop :=
  match options.chosen? with
  | some _ => ready = world
  | none => ∃ disk, world.disk.makeDirectory world.here shop.scratch.text = .ok disk ∧
      ready = { world with disk }

theorem prepare_spec (shop : Workshop) (options : Options) (world : World) :
    (∃ ready, Prepares shop options world ready ∧
        prepare shop options world = (.ok (), ready)) ∨
      (∀ ready, ¬ Prepares shop options world ready) ∧
        ∃ refusal, prepare shop options world = (.error (.refused refusal), world) := by
  simp only [Prepares, prepare]
  cases options.chosen? with
  | some source => exact .inl ⟨world, rfl, rfl⟩
  | none =>
    rw [Option.isNone_none, if_pos rfl, Action.bind_get]
    cases world.disk.makeDirectory world.here shop.scratch.text with
    | ok disk => exact .inl ⟨_, ⟨disk, rfl, rfl⟩, rfl⟩
    | error refusal => exact .inr ⟨fun _ ⟨_, h, _⟩ => (nomatch h), refusal, rfl⟩

theorem Prepares.unique {ready' : World} (h : Prepares shop options world ready)
    (h' : Prepares shop options world ready') : ready' = ready := by
  cases hchosen : options.chosen? with
  | some source =>
    simp only [Prepares, hchosen] at h h'
    exact h'.trans h.symm
  | none =>
    simp only [Prepares, hchosen] at h h'
    obtain ⟨disk, hdisk, rfl⟩ := h
    obtain ⟨disk', hdisk', rfl⟩ := h'
    obtain rfl := Except.ok.inj (hdisk.symm.trans hdisk')
    rfl

/-- Whether nothing stands against the last thing to do on a disk. -/
def Options.QuietOn (options : Options) (left : Disk) (here : Place) : Prop :=
  options.keep = false → ∀ source, options.chosen? = some source → Quiet left here source

theorem finish_spec (shop : Workshop) (options : Options) (world : World) :
    (options.QuietOn world.disk world.here ∧ ∃ after, finish shop options world = (.ok (), after)) ∨
      ¬ options.QuietOn world.disk world.here ∧ ∃ trouble after,
        finish shop options world = (.error trouble, after) ∧
          trouble.isIn .typesetting = false := by
  rw [finish, Options.QuietOn]
  cases options.keep with
  | true => exact .inl ⟨nofun, _, rfl⟩
  | false =>
    rw [if_neg Bool.false_ne_true]
    cases options.chosen? with
    | none => exact .inl ⟨fun _ _ => nofun, _, rfl⟩
    | some source =>
      obtain ⟨result, after, hsweep, hquiet, hfault, -⟩ := sweepBeside_spec source world
      simp only [hsweep]
      cases result with
      | ok _ =>
        refine .inl ⟨?_, after, rfl⟩
        rintro - _ ⟨⟩
        exact hquiet.mp rfl
      | error trouble =>
        refine .inr ⟨fun h => ?_, trouble, after, rfl, hfault trouble rfl⟩
        cases hquiet.mpr (h trivial source rfl)

/-! ### The stage -/

def begun (shop : Workshop) (world : World) : World := Journal.note (stage shop).startNote world

/-- Whether nothing happens to the stage that no fault stands for: the scratch directory can be made
if it is needed, all is calm, and nothing stands against removing the auxiliary files from the disk
that is left. -/
structure Tame (shop : Workshop) (options : Options) (latex : Text) (world : World) : Prop where
  prepares : ∃ ready, Prepares shop options (begun shop world) ready
  calm : ∀ ready, Prepares shop options (begun shop world) ready →
    Calm shop options (sourcePath shop options) latex ready
  quiet : ∀ ready left, Prepares shop options (begun shop world) ready →
    Leaves shop options (sourcePath shop options) latex ready left → options.QuietOn left ready.here

/-- Whether the stage finds some bytes where the output of the tool has to be. -/
def Yields (shop : Workshop) (options : Options) (latex : Text) (world : World)
    (bytes : ByteArray) : Prop :=
  ∃ ready, Prepares shop options (begun shop world) ready ∧
    Makes shop options (sourcePath shop options) latex ready bytes

/-- Where the last thing to do is stopped, that is the end of it. -/
theorem andFinally_apply_error {α : Type} {action : World.Act α} {last : World.Act Unit}
    {trouble : Trouble} {world after : World}
    (h : last (action world).2 = (.error trouble, after)) :
    andFinally action last world = (.error trouble, after) := by
  unfold andFinally
  split
  rename_i result next heq
  rw [heq] at h
  simp only [h]

/-- The work ends with what has come of the source, or with the trouble in removing the files. -/
theorem typeset_spec (shop : Workshop) (options : Options) (latex : Text) (world : World) :
    (∃ ready left, Prepares shop options world ready ∧
        Leaves shop options (sourcePath shop options) latex ready left ∧
        ((options.QuietOn left ready.here ∧ ∃ after, typeset shop options latex world =
            ((produce shop options (sourcePath shop options) latex ready).1, after)) ∨
          ¬ options.QuietOn left ready.here ∧ ∃ trouble after,
            typeset shop options latex world = (.error trouble, after) ∧
              trouble.isIn .typesetting = false)) ∨
      (∀ ready, ¬ Prepares shop options world ready) ∧
        ∃ trouble after, typeset shop options latex world = (.error trouble, after) ∧
          trouble.isIn .typesetting = false := by
  obtain ⟨ready, hprepares, hprepare⟩ | ⟨hnone, refusal, hprepare⟩ :=
    prepare_spec shop options world
  · have htypeset : typeset shop options latex world =
        andFinally (produce shop options (sourcePath shop options) latex) (finish shop options)
          ready := Action.bind_of_ok hprepare
    obtain ⟨left, hleaves⟩ := exists_leaves shop options (sourcePath shop options) latex ready
    obtain ⟨rfl, hhere, -⟩ :=
      (produces shop options (sourcePath shop options) latex ready).disk_of_leaves hleaves
    refine .inl ⟨ready, _, hprepares, hleaves, ?_⟩
    rw [← hhere]
    obtain ⟨hquiet, after, hfinish⟩ | ⟨hloud, trouble, after, hfinish, hfault⟩ :=
      finish_spec shop options (produce shop options (sourcePath shop options) latex ready).2
    · exact .inl ⟨hquiet, after, htypeset.trans (andFinally_apply hfinish)⟩
    · exact .inr ⟨hloud, trouble, after, htypeset.trans (andFinally_apply_error hfinish), hfault⟩
  · exact .inr ⟨hnone, _, world, Action.bind_of_error hprepare, rfl⟩

theorem fst_runWith (shop : Workshop) (options : Options) (latex : Text) (world : World) :
    ((stage shop).runWith options latex world).1 =
      match (typeset shop options latex (begun shop world)).1 with
      | .ok bytes => .ok (.success bytes)
      | .error trouble =>
        if trouble.isIn .typesetting then .ok (.failure trouble) else .error trouble := by
  have happly : (stage shop).apply options latex (Journal.note (stage shop).startNote world) =
      typeset shop options latex (begun shop world) := rfl
  rw [Stage.runWith, happly]
  rcases typeset shop options latex (begun shop world) with ⟨trouble | bytes, after⟩
  · have hdeclares : (stage shop).declares trouble = trouble.isIn .typesetting := rfl
    dsimp only
    rw [hdeclares]
    cases trouble.isIn .typesetting <;> rfl
  · rfl

/-- **The stage has an outcome just when nothing happens that no fault stands for.** It is the
success of the bytes of the output if the source was written and the tool was started and ended with
code 0, and else a failure with a fault of typesetting. -/
theorem runWith_outcome (shop : Workshop) (options : Options) (latex : Text) (world : World) :
    ((∃ outcome, ((stage shop).runWith options latex world).1 = .ok outcome) ↔
        Tame shop options latex world) ∧
      (∀ bytes, ((stage shop).runWith options latex world).1 = .ok (.success bytes) ↔
        Tame shop options latex world ∧ Yields shop options latex world bytes) ∧
      ∀ trouble, ((stage shop).runWith options latex world).1 = .ok (.failure trouble) →
        trouble.isIn .typesetting = true := by
  rw [fst_runWith]
  obtain ⟨ready, left, hprepares, hleaves, hends⟩ | ⟨hnone, trouble, after, htypeset, hno⟩ :=
    typeset_spec shop options latex (begun shop world)
  · have hquiet : (∀ ready left, Prepares shop options (begun shop world) ready →
        Leaves shop options (sourcePath shop options) latex ready left →
          options.QuietOn left ready.here) ↔ options.QuietOn left ready.here := by
      refine ⟨fun h => h ready left hprepares hleaves, fun h ready' left' hprepares' hleaves' => ?_⟩
      obtain rfl := hprepares.unique hprepares'
      have hproduces := produces shop options (sourcePath shop options) latex ready'
      rwa [← (hproduces.disk_of_leaves hleaves').1, (hproduces.disk_of_leaves hleaves).1]
    obtain ⟨hstill, after, htypeset⟩ | ⟨hloud, trouble, after, htypeset, hno⟩ := hends
    · have hproduces := produces shop options (sourcePath shop options) latex ready
      have htame : Tame shop options latex world ↔
          Calm shop options (sourcePath shop options) latex ready := by
        refine ⟨fun h => h.calm ready hprepares, fun h => ⟨⟨ready, hprepares⟩, ?_, hquiet.mpr hstill⟩⟩
        intro ready' hprepares'
        rwa [hprepares.unique hprepares']
      have hyields (bytes : ByteArray) : Yields shop options latex world bytes ↔
          Makes shop options (sourcePath shop options) latex ready bytes := by
        refine ⟨?_, fun h => ⟨ready, hprepares, h⟩⟩
        rintro ⟨ready', hprepares', h⟩
        rwa [hprepares.unique hprepares'] at h
      simp only [htame, hyields, ← hproduces.eq_ok_iff]
      rw [htypeset, hproduces.calm_iff]
      cases (produce shop options (sourcePath shop options) latex ready).1 with
      | ok bytes => simp
      | error trouble =>
        cases hfault : trouble.isIn .typesetting <;> simp [hfault]
    · have hwild : ¬ Tame shop options latex world := fun h => hloud (hquiet.mp h.quiet)
      rw [htypeset]
      simp [hwild, hno]
  · have hwild : ¬ Tame shop options latex world := fun h =>
      h.prepares.elim fun ready hprepares => hnone ready hprepares
    rw [htypeset]
    simp [hwild, hno]

/-- A workshop in which no command may be started. -/
def closedShop : Workshop := ⟨fun _ _ _ => .error .denied, .ofText "/tmp/scratch"⟩

/-- A workshop in which every command leaves an output, prints a byte that is no text, and ends
well. -/
def garblingShop : Workshop where
  launch disk here _ :=
    .ok ⟨0, ⟨#[255]⟩, .empty, disk.store (here ++ ["x.pdf".toList]) (Text.toBytes "P")⟩
  scratch := .ofText "/tmp/scratch"

/-- **The stage does not always have an outcome.** A tool that is no program, such as the source
itself, is refused with a trouble that no fault stands for; and one that prints bytes that are no
text stops the stage, although its output is there. -/
theorem not_forall_exists_outcome :
    (¬ ∀ (shop : Workshop) (options : Options) (latex : Text) (world : World),
      ∃ outcome, ((stage shop).runWith options latex world).1 = .ok outcome) ∧
    ((stage closedShop).runWith { source := some "x.tex", command := "./x.tex" } "x"
        (.ofDisk .empty [])).1 = .error (.refused ⟨.denied, some "./x.tex"⟩) ∧
      ((stage garblingShop).runWith { source := some "x.tex", keep := true } "x"
        (.ofDisk .empty [])).1 = .error .undecodable ∧
      (((stage garblingShop).runWith { source := some "x.tex", keep := true } "x"
        (.ofDisk .empty [])).2.disk.read [] "x.pdf").toOption.isSome := by
  have hdenied : ((stage closedShop).runWith { source := some "x.tex", command := "./x.tex" } "x"
      (.ofDisk .empty [])).1 = .error (.refused ⟨.denied, some "./x.tex"⟩) := by
    decide +kernel
  refine ⟨fun h => ?_, hdenied, by decide +kernel, by decide +kernel⟩
  obtain ⟨outcome, houtcome⟩ := h closedShop { source := some "x.tex", command := "./x.tex" } "x"
    (.ofDisk .empty [])
  cases hdenied.symm.trans houtcome

end Typeset

end Agenda
