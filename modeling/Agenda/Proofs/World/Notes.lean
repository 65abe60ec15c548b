import Agenda.Proofs.Disk.Removal
import Agenda.Proofs.Pipeline.Gives
import Agenda.World

/-!
# What notes change in a world

A run that notes something prints to the error stream and writes to its log file, and changes
nothing else (`World.Noted`). Paths that do not lead to the log file are opened as before, however
much has been noted since.
-/

namespace Agenda

namespace World

/-- The place of the log file, if there is one. -/
def logPlace? (world : World) : Option Place := world.log.map LogFile.place

/-- Whether a world is another one in which something has been noted since, or printed to the error
stream, with the log file at a place or none. -/
structure Noted (log : Option Place) (before after : World) : Prop where
  here : after.here = before.here
  stdin : after.stdin = before.stdin
  stdout : after.stdout = before.stdout
  stderr : before.stderr <+: after.stderr
  disk : before.disk.SameBut log after.disk
  log : after.logPlace? = log

variable {log : Option Place} {world : World}

theorem noted_refl (hlog : world.logPlace? = log) : Noted log world world :=
  ⟨rfl, rfl, rfl, List.prefix_rfl, .refl .., hlog⟩

theorem Noted.trans {first second third : World} (h : Noted log first second)
    (h' : Noted log second third) : Noted log first third where
  here := h'.here.trans h.here
  stdin := h'.stdin.trans h.stdin
  stdout := h'.stdout.trans h.stdout
  stderr := h.stderr.trans h'.stderr
  disk := h.disk.trans h'.disk
  log := h'.log

theorem noted_printError (text : Text) (hlog : world.logPlace? = log) :
    Noted log world (world.printError text) :=
  ⟨rfl, rfl, rfl, List.prefix_append _ _, .refl .., hlog⟩

theorem print_empty (world : World) : world.print .empty = world := by
  rw [print, ByteArray.append_empty]

theorem Noted.print {before after : World} (h : Noted log before after) (bytes : ByteArray) :
    Noted log (before.print bytes) (after.print bytes) where
  here := h.here
  stdin := h.stdin
  stdout := congrArg (· ++ bytes) h.stdout
  stderr := h.stderr
  disk := h.disk
  log := h.log

/-- What a log file is given goes into the file that is there. -/
theorem disk_addToLog (note : Note) (world : World) :
    (world.addToLog note).disk = world.disk ∨
      ∃ log file contents, world.log = some log ∧ world.disk.get? log.place = some (.file file) ∧
        (world.addToLog note).disk = world.disk.store log.place contents := by
  rw [addToLog]
  split
  · exact .inl rfl
  · rename_i log hlog
    split
    · rename_i file hfile
      obtain ⟨refused, contents, hfill⟩ := Disk.exists_fill_eq world.disk log.place file.contents
        (Text.toBytes (logLine log note))
      refine .inr ⟨log, file, contents, hlog, hfile, ?_⟩
      rw [hfill]
      cases refused <;> rfl
    · exact .inl rfl

/-- A log file takes a note, or the error stream does. -/
theorem noted_addToLog (note : Note) (hlog : world.logPlace? = log) :
    Noted log world (world.addToLog note) := by
  have hdisk : world.disk.SameBut log (world.addToLog note).disk := by
    obtain heq | ⟨file, found, contents, hfile, hfound, heq⟩ := disk_addToLog note world
    · rw [heq]
      exact .refl ..
    · have hplace : log = some file.place := by rw [← hlog, logPlace?, hfile, Option.map_some]
      rw [heq]
      refine .inr ⟨file.place, hplace, Disk.writtenAt_store (fun entry hentry => ?_) contents⟩
      exact ⟨found, Option.some.inj (hentry.symm.trans hfound)⟩
  have hrest : (world.addToLog note).here = world.here ∧ (world.addToLog note).stdin = world.stdin ∧
      (world.addToLog note).stdout = world.stdout ∧
      world.stderr <+: (world.addToLog note).stderr ∧
      (world.addToLog note).logPlace? = world.logPlace? := by
    rw [addToLog]
    split
    · exact ⟨rfl, rfl, rfl, List.prefix_rfl, rfl⟩
    · rename_i file hfile
      have hplace : world.logPlace? = some file.place := by rw [logPlace?, hfile, Option.map_some]
      split
      · split
        · exact ⟨rfl, rfl, rfl, List.prefix_rfl, hplace.symm⟩
        · exact ⟨rfl, rfl, rfl, List.prefix_append _ _, hplace.symm⟩
      · exact ⟨rfl, rfl, rfl, List.prefix_rfl, hplace.symm⟩
  obtain ⟨hhere, hstdin, hstdout, hstderr, hplace⟩ := hrest
  exact ⟨hhere, hstdin, hstdout, hstderr, hdisk, hplace.trans hlog⟩

theorem noted_note (note : Note) (hlog : world.logPlace? = log) :
    Noted log world (Journal.note note world) := by
  show Noted log world (world.write note)
  rw [write]
  split
  · exact (noted_printError _ hlog).trans (noted_addToLog _ hlog)
  · exact noted_refl hlog

theorem noted_of_eq_or_eq_note {after : World}
    (h : after = world ∨ ∃ note, after = Journal.note note world) (hlog : world.logPlace? = log) :
    Noted log world after := by
  obtain rfl | ⟨note, rfl⟩ := h
  · exact noted_refl hlog
  · exact noted_note note hlog

theorem noted_noteAll (notes : List Note) (hlog : world.logPlace? = log) :
    Noted log world (Journal.noteAll notes world) := by
  induction notes generalizing world with
  | nil => exact noted_refl hlog
  | cons note rest ih =>
    have hnoted := noted_note note hlog
    exact hnoted.trans (ih hnoted.log)

/-- Whether a text has been printed to the error stream between two worlds. -/
def Told (text : Text) (before after : World) : Prop :=
  ∃ already, before.stderr <+: already ∧ already ++ text <+: after.stderr

theorem Told.mono {text : Text} {first second third : World} (h : Told text first second)
    (h' : second.stderr <+: third.stderr) : Told text first third := by
  obtain ⟨already, hfirst, hsecond⟩ := h
  exact ⟨already, hfirst, hsecond.trans h'⟩

theorem Noted.trans_told {text : Text} {first second third : World} (h : Noted log first second)
    (h' : Told text second third) : Told text first third := by
  obtain ⟨already, hsecond, hthird⟩ := h'
  exact ⟨already, h.stderr.trans hsecond, hthird⟩

/-- A note tells nothing otherwise about paths, and makes no file. -/
theorem pruned_note (here : Place) (note : Note) (world : World) :
    Disk.Pruned here world.disk (Journal.note note world).disk := by
  show Disk.Pruned here world.disk (world.write note).disk
  rw [write]
  split
  · obtain heq | ⟨log, file, contents, -, hfile, heq⟩ :=
      disk_addToLog note (world.printError (note.text ++ "\n"))
    · rw [heq]
      exact .refl here world.disk
    · rw [heq]
      refine (Disk.writtenAt_store (fun entry hentry => ?_) contents).pruned hfile here
      exact ⟨file, Option.some.inj (hentry.symm.trans hfile)⟩
  · exact .refl here world.disk

theorem get?_note_eq_none {world : World} {p : Place} (h : world.disk.get? p = none) (note : Note) :
    (Journal.note note world).disk.get? p = none :=
  (pruned_note world.here note world).gone p h

/-- An error is reported, whatever else is left out. -/
theorem told_note_error (text : Text) (world : World) :
    (world.stderr ++ (text ++ "\n") : Text) <+: (Journal.note ⟨.error, text⟩ world).stderr := by
  have hrank : world.threshold.rank ≤ Level.error.rank := by
    cases world.threshold <;> decide
  show _ <+: (world.write ⟨.error, text⟩).stderr
  rw [write, if_pos hrank]
  have hadded : Noted _ (world.printError (text ++ "\n")) _ := noted_addToLog ⟨.error, text⟩ rfl
  exact hadded.stderr

/-! ### Texts that are handed to the system -/

theorem checkZero_of_clean {text : Text} (h : text.contains '\x00' = false) (world : World) :
    checkZero text world = (.ok (), world) := by
  rw [checkZero, h]
  rfl

theorem checkZero_of_zero {text : Text} (h : text.contains '\x00' = true) (world : World) :
    checkZero text world = (.error .zeroInside, world) := by
  rw [checkZero, h]
  rfl

end World

/-- An action that only notes has its result, and leaves a world in which something was noted. -/
theorem Action.Gives.exists_noted {α : Type} {log : Option Place} {world : World}
    {action : World.Act α} {result : Except Trouble α} (h : Action.Gives world action result)
    (hlog : world.logPlace? = log) :
    ∃ after, World.Noted log world after ∧ action world = (result, after) := by
  obtain ⟨added, haction⟩ := h []
  exact ⟨_, World.noted_noteAll added hlog, haction⟩

end Agenda
