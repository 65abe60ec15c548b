import Agenda.Proofs.Typeset.Outcome

/-!
# The scratch directory

A user who chooses no path has the source put into a directory that is made for it. Whatever comes
of the work, and whatever the command does but remove that directory, it is there in the end just if
the user asks for it, and then with the source as it was written, unless the command has changed it.
The bytes that are handed on are those that the command has left, and outside of the directory
nothing is changed but by the command (`typeset_scratch`). Only the log file, to which notes are
added, may be anywhere.
-/

namespace Agenda

namespace Disk.Path

@[simp] theorem parent_child (path : Path) (name : Text) : (path.child name).parent = path := by
  rw [parent, child]
  simp only [List.dropLast_concat]

@[simp] theorem name_child (path : Path) (name : Text) : (path.child name).name = name := by
  rw [Path.name, child]
  simp only [List.getLast?_concat, Option.getD_some]

end Disk.Path

namespace Typeset

variable {shop : Workshop} {options : Options} {source : Disk.Path} {latex : Text}
  {world fresh ready after : World} {given left : Disk} {place p : Place}

/-! ### What the command is handed -/

/-- Whether a command is handed one disk and leaves another one. A source that is not written is not
handed to anything, and what is not started leaves what it was handed. -/
inductive Handed (shop : Workshop) (options : Options) (source : Disk.Path) (latex : Text)
    (world : World) : Disk → Disk → Prop
  | unwritten {left : Disk} (h : ∀ ready, ¬ Writes options source latex world ready)
      (hleaves : Leaves shop options source latex world left) :
      Handed shop options source latex world left left
  | written {ready : World} {left : Disk} (hwrites : Writes options source latex world ready)
      (hleft : Left shop options source ready left) :
      Handed shop options source latex world ready.disk left

theorem exists_handed (shop : Workshop) (options : Options) (source : Disk.Path) (latex : Text)
    (world : World) : ∃ given left, Handed shop options source latex world given left := by
  by_cases h : ∃ ready, Writes options source latex world ready
  · obtain ⟨ready, hwrites⟩ := h
    obtain ⟨left, hleft⟩ := exists_left shop options source ready
    exact ⟨ready.disk, left, .written hwrites hleft⟩
  · obtain ⟨left, hleaves⟩ := exists_leaves shop options source latex world
    exact ⟨left, left, .unwritten (not_exists.mp h) hleaves⟩

theorem Handed.leaves (h : Handed shop options source latex world given left) :
    Leaves shop options source latex world left := by
  cases h with
  | unwritten _ hleaves => exact hleaves
  | written hwrites hleft => exact .written hwrites hleft

/-! ### The directory that is made -/

def scratchSource (shop : Workshop) : Disk.Path := shop.scratch.child scratchName

/-- The output that belongs to the source in a scratch directory. -/
def outputName : Text := "timetable.pdf"

theorem sourcePath_of_unchosen (hchosen : options.chosen? = none) :
    sourcePath shop options = scratchSource shop := by
  rw [sourcePath, hchosen, Option.getD_none, scratchSource]

theorem withSuffix_scratchSource (shop : Workshop) :
    (scratchSource shop).withSuffix ".pdf" = shop.scratch.child outputName := by
  have hstem : (scratchSource shop).stem = "timetable" := by
    rw [Disk.Path.stem, scratchSource, Disk.Path.name_child]
    decide
  rw [Disk.Path.withSuffix, Disk.Path.withName, hstem, scratchSource, Disk.Path.parent_child]
  rfl

/-- Whether a world is another one with an empty scratch directory at a place where nothing was. -/
structure HasScratch (shop : Workshop) (world fresh : World) (place : Place) : Prop where
  names : shop.scratch.names ≠ []
  spot : world.disk.get? place = none
  made : fresh = { world with disk := world.disk.put place world.disk.newDirectory }
  leads : fresh.disk.LeadsInto world.here shop.scratch.text place
  empty : ∀ p, place <+: p → p ≠ place → fresh.disk.get? p = none

theorem Prepares.exists_hasScratch (h : Prepares shop options world fresh)
    (hchosen : options.chosen? = none) (htree : world.disk.IsTree) :
    ∃ place, HasScratch shop world fresh place := by
  rw [Prepares, hchosen] at h
  obtain ⟨disk, hmake, rfl⟩ := h
  have hnames := Disk.Path.names_ne_nil_of_makeDirectory hmake
  obtain ⟨target, -, hspot, rfl, hleads⟩ := Disk.makeDirectory_spec hmake
  refine ⟨target.place, hnames, hspot, rfl, hleads, fun p hp hne => ?_⟩
  rw [Disk.get?_put_of_ne _ hne]
  exact htree.get?_below hspot hp

namespace HasScratch

variable (h : HasScratch shop world fresh place)
include h

theorem here_eq : fresh.here = world.here := by rw [h.made]

theorem logPlace?_eq : fresh.logPlace? = world.logPlace? := by
  rw [h.made]
  rfl

/-- Outside of the scratch directory there is what was there before. -/
theorem get?_outside (hp : ¬ place <+: p) : fresh.disk.get? p = world.disk.get? p := by
  rw [h.made]
  exact Disk.get?_put_of_ne _ fun heq => hp (heq ▸ List.prefix_rfl)

/-- Nothing is where the source is to be written. -/
theorem get?_source : fresh.disk.get? (place ++ [scratchName]) = none :=
  h.empty _ (List.prefix_append ..) (by simp)

theorem follow_child {disk : Disk} {name : Text} {reached : Disk.Target}
    (hleads : disk.LeadsInto world.here shop.scratch.text place) (hname : Disk.IsPlainName name)
    (hlink : ∀ path, disk.get? (place ++ [name]) ≠ some (.link path))
    (hfollow : disk.follow world.here (shop.scratch.child name).text = .ok reached) :
    reached.place = place ++ [name] := by
  rw [Disk.Path.text_child h.names] at hfollow
  exact hleads.follow_slash hname hlink hfollow

theorem findWritable_source {written : Place}
    (hopened : fresh.disk.findWritable fresh.here (scratchSource shop).text = .ok written) :
    written = place ++ [scratchName] := by
  obtain ⟨⟨target, hfollow, rfl⟩, -⟩ := Disk.exists_target_of_findWritable hopened
  rw [h.here_eq] at hfollow
  refine h.follow_child h.leads (by decide +kernel) (fun path hlink => ?_) hfollow
  cases h.get?_source.symm.trans hlink

/-- A source that is written is a new file in the scratch directory. -/
theorem writes_spec (hwrites : Writes options (scratchSource shop) latex fresh ready) :
    ∃ disk file, Disk.WrittenAt (place ++ [scratchName]) fresh.disk disk ∧
      disk.get? (place ++ [scratchName]) = some (.file file) ∧
      file.contents = Text.toBytes latex ∧ file.group = none ∧
      World.Noted world.logPlace? { fresh with disk } ready := by
  obtain ⟨-, disk, hwrite, hready⟩ := hwrites
  obtain ⟨written, hopened, rfl⟩ := Disk.exists_store_of_write hwrite
  have hspot := (Disk.exists_target_of_findWritable hopened).2
  obtain rfl := h.findWritable_source hopened
  refine ⟨_, _, Disk.writtenAt_store hspot _, Disk.get?_store_of_none h.get?_source _, rfl, rfl, ?_⟩
  rw [hready]
  exact World.noted_note _ h.logPlace?_eq

/-- Where a source is not written, at most its own file is spoiled. -/
theorem sameBut_of_leaves (hnone : ∀ ready, ¬ Writes options (scratchSource shop) latex fresh ready)
    (hleaves : Leaves shop options (scratchSource shop) latex fresh left) :
    fresh.disk.SameBut (some (place ++ [scratchName])) left := by
  cases hleaves with
  | badPath _ => exact .refl ..
  | written hwrites _ => exact absurd hwrites (hnone _)
  | refused _ hwrite =>
    obtain rfl | ⟨written, hopened, hwritten⟩ := Disk.sameBut_of_write hwrite
    · exact .refl ..
    · obtain rfl := h.findWritable_source (Disk.eq_ok_of_toOption hopened)
      exact .inr ⟨_, rfl, hwritten⟩

/-- What is handed to the command differs from the fresh disk in the source and the log file alone.
-/
theorem given_spec (hhanded : Handed shop options (scratchSource shop) latex fresh given left) :
    ∃ disk, fresh.disk.SameBut (some (place ++ [scratchName])) disk ∧
      disk.SameBut world.logPlace? given := by
  cases hhanded with
  | unwritten hnone hleaves => exact ⟨given, h.sameBut_of_leaves hnone hleaves, .refl ..⟩
  | written hwrites _ =>
    obtain ⟨disk, -, hwritten, -, -, -, hnoted⟩ := h.writes_spec hwrites
    exact ⟨disk, .inr ⟨_, rfl, hwritten⟩, hnoted.disk⟩

variable (hhanded : Handed shop options (scratchSource shop) latex fresh given left)
include hhanded

/-- The command is handed a disk on which the path of the scratch directory leads there. -/
theorem leads_given : given.LeadsInto world.here shop.scratch.text place := by
  obtain ⟨disk, hsource, hlog⟩ := h.given_spec hhanded
  exact hlog.leadsInto (hsource.leadsInto h.leads)

/-- Up to the command, nothing is changed outside of the scratch directory but the log file. -/
theorem get?_given (hp : ¬ place <+: p)
    (hlog : ∀ l, world.logPlace? = some l → ¬ given.SameFile l p) :
    given.get? p = world.disk.get? p := by
  rw [← h.get?_outside hp]
  obtain ⟨disk, hsource, hnoted⟩ := h.given_spec hhanded
  have hfar : ¬ fresh.disk.SameFile (place ++ [scratchName]) p := by
    rintro (rfl | ⟨hgroup, -⟩)
    · exact hp (List.prefix_append ..)
    · exact hgroup (by rw [Disk.groupAt, h.get?_source])
  have hstays : given.get? p = disk.get? p := hnoted.get?_eq fun l hl hsame =>
    hlog l hl ((hnoted.sameFile_iff l p).mpr hsame)
  refine hstays.trans (hsource.get?_eq ?_)
  rintro _ ⟨⟩
  exact hfar

end HasScratch

/-! ### What is left -/

/-- The note that auxiliary files were kept. -/
def keptNote (shop : Workshop) (options : Options) : Note :=
  ⟨.info, "Pomocni fajlovi sacuvani u: " ++ (sourcePath shop options).parent.text ++ "/"⟩

/-- The work in a scratch directory ends with what has come of the source, and with the directory
removed if it is not to be kept. -/
theorem typeset_of_prepares (h : Prepares shop options world fresh)
    (hchosen : options.chosen? = none) (latex : Text) :
    typeset shop options latex world =
      ((produce shop options (scratchSource shop) latex fresh).1, if options.keep then
          Journal.note (keptNote shop options)
            (produce shop options (scratchSource shop) latex fresh).2
        else removeScratch shop (produce shop options (scratchSource shop) latex fresh).2) := by
  have hprepare : prepare shop options world = (.ok (), fresh) := by
    obtain ⟨other, hother, hprepare⟩ | ⟨hnone, -⟩ := prepare_spec shop options world
    · rw [hprepare, h.unique hother]
    · exact absurd h (hnone fresh)
  have hfinish (after : World) : finish shop options after = (.ok (), if options.keep then
      Journal.note (keptNote shop options) after else removeScratch shop after) := by
    rw [finish, hchosen]
    cases options.keep <;> rfl
  rw [← sourcePath_of_unchosen hchosen]
  exact (Action.bind_of_ok hprepare).trans (andFinally_apply (hfinish _))

theorem sameFile_iff_of_groupAt {disk : Disk} (h : disk.groupAt p = none) (l : Place) :
    disk.SameFile l p ↔ l = p := by
  refine ⟨?_, .inl⟩
  rintro (heq | ⟨hgroup, heq⟩)
  · exact heq
  · exact absurd (heq.symm.trans h) hgroup

/-- Whether the command leaves the scratch directory where it is. -/
def Spares (shop : Workshop) (options : Options) (latex : Text) (fresh : World) (place : Place) :
    Prop :=
  ∀ ready finished, Writes options (scratchSource shop) latex fresh ready →
    Tries shop options (scratchSource shop) ready (.ok finished) →
      finished.disk.LeadsInto fresh.here shop.scratch.text place

/-- The command leaves a disk on which the path of the scratch directory leads there. -/
theorem HasScratch.leads_left (h : HasScratch shop world fresh place)
    (hhanded : Handed shop options (scratchSource shop) latex fresh given left)
    (hspares : Spares shop options latex fresh place) :
    left.LeadsInto world.here shop.scratch.text place := by
  have hgiven := h.leads_given hhanded
  cases hhanded with
  | unwritten _ _ => exact hgiven
  | written hwrites hleft =>
    obtain ⟨finished, htries, rfl⟩ | ⟨-, rfl⟩ := hleft
    · rw [← h.here_eq]
      exact hspares _ _ hwrites htries
    · exact hgiven

/-- In the end, the disk is as the command left it but for a note, or without the scratch
directory. -/
theorem HasScratch.disk_after (h : HasScratch shop world fresh place)
    (hprepares : Prepares shop options world fresh) (hchosen : options.chosen? = none)
    (hhanded : Handed shop options (scratchSource shop) latex fresh given left)
    (hspares : Spares shop options latex fresh place) :
    (options.keep = true ∧
        left.SameBut world.logPlace? (typeset shop options latex world).2.disk) ∨
      options.keep = false ∧ (typeset shop options latex world).2.disk = left.eraseTree place := by
  obtain ⟨rfl, hhere, hlog⟩ :=
    (produces shop options (scratchSource shop) latex fresh).disk_of_leaves hhanded.leaves
  have hafter := congrArg Prod.snd (typeset_of_prepares hprepares hchosen latex)
  cases hkeep : options.keep with
  | true =>
    refine .inl ⟨rfl, ?_⟩
    rw [hkeep, if_pos rfl] at hafter
    rw [hafter]
    exact (World.noted_note _ (hlog.trans h.logPlace?_eq)).disk
  | false =>
    refine .inr ⟨rfl, ?_⟩
    rw [hkeep, if_neg Bool.false_ne_true, removeScratch] at hafter
    obtain ⟨slash, hfollow⟩ := (h.leads_left hhanded hspares).follow
    have hplace : placeOf? (produce shop options (scratchSource shop) latex fresh).2 shop.scratch =
        some place := by
      rw [placeOf?, hhere, h.here_eq, hfollow]
      rfl
    rw [hplace] at hafter
    rw [hafter]

/-- What is left of the work in a scratch directory at a place, which the command was handed on one
disk and left on another one. -/
structure Settled (shop : Workshop) (options : Options) (latex : Text) (world fresh : World)
    (place : Place) (given left : Disk) (result : Except Trouble ByteArray) (after : World) :
    Prop where
  /-- The directory is there just if it is to be kept. -/
  kept_iff : after.disk.isDirectory place = true ↔ options.keep = true
  /-- One that is not to be kept goes with all that is in it. -/
  gone : options.keep = false → ∀ p, place <+: p → after.disk.get? p = none
  /-- A source that is written is handed to the command, and kept unless the command changes it. -/
  source : (∃ ready, Writes options (scratchSource shop) latex fresh ready) →
    world.logPlace? ≠ some (place ++ [scratchName]) →
      ∃ file, file.contents = Text.toBytes latex ∧
        given.get? (place ++ [scratchName]) = some (.file file) ∧
        (options.keep = true → left.get? (place ++ [scratchName]) = some (.file file) →
          after.disk.get? (place ++ [scratchName]) = some (.file file))
  /-- The bytes that come of it are those that the command left as its output. -/
  output : ∀ bytes, result = .ok bytes →
    left.read world.here (shop.scratch.child outputName).text = .ok bytes ∧
      ∀ file, left.get? (place ++ [outputName]) = some (.file file) → file.contents = bytes
  /-- Outside, nothing but the log file is changed before the command is run. -/
  before : ∀ p, ¬ place <+: p → (∀ l, world.logPlace? = some l → ¬ given.SameFile l p) →
    given.get? p = world.disk.get? p
  /-- Outside, nothing but the log file is changed after the command has been run. -/
  behind : ∀ p, ¬ place <+: p → (∀ l, world.logPlace? = some l → ¬ left.SameFile l p) →
    after.disk.get? p = left.get? p

/-- The source that the command is handed is kept, unless the command changes it. -/
theorem HasScratch.source_spec (h : HasScratch shop world fresh place)
    (hhanded : Handed shop options (scratchSource shop) latex fresh given left)
    (hwrites : Writes options (scratchSource shop) latex fresh ready)
    (hlog : world.logPlace? ≠ some (place ++ [scratchName])) :
    ∃ file, file.contents = Text.toBytes latex ∧ file.group = none ∧
      given.get? (place ++ [scratchName]) = some (.file file) := by
  cases hhanded with
  | unwritten hnone _ => exact absurd hwrites (hnone ready)
  | written hwrites' _ =>
    obtain rfl := hwrites'.unique hwrites
    obtain ⟨disk, file, -, hfile, hcontents, hgroup, hnoted⟩ := h.writes_spec hwrites
    refine ⟨file, hcontents, hgroup, (hnoted.disk.get?_eq fun l hl hsame => ?_).trans hfile⟩
    obtain rfl := (sameFile_iff_of_groupAt ((Disk.groupAt_of_file hfile).trans hgroup) l).mp hsame
    exact hlog hl

/-- The bytes that come of a source are those that the command left as its output. -/
theorem HasScratch.output_spec (h : HasScratch shop world fresh place)
    (hhanded : Handed shop options (scratchSource shop) latex fresh given left)
    (hspares : Spares shop options latex fresh place) {bytes : ByteArray}
    (hresult : (produce shop options (scratchSource shop) latex fresh).1 = .ok bytes) :
    left.read world.here (shop.scratch.child outputName).text = .ok bytes ∧
      ∀ file, left.get? (place ++ [outputName]) = some (.file file) → file.contents = bytes := by
  obtain ⟨-, ready, finished, hwrites, htries, -, houtput⟩ :=
    ((produces shop options (scratchSource shop) latex fresh).eq_ok_iff bytes).mp hresult
  have hleads := h.leads_left hhanded hspares
  have hread : left.read world.here (shop.scratch.child outputName).text = .ok bytes := by
    cases hhanded with
    | unwritten hnone _ => exact absurd hwrites (hnone ready)
    | written hwrites' hleft =>
      obtain rfl := hwrites'.unique hwrites
      obtain ⟨_, _, -, -, -, -, hnoted⟩ := h.writes_spec hwrites
      have hhere : ready.here = world.here := hnoted.here.trans h.here_eq
      rwa [outputOf, withSuffix_scratchSource, hhere, ← hleft.eq_of_tries htries] at houtput
  refine ⟨hread, fun file hfile => ?_⟩
  obtain ⟨reached, found, hfollow, hfound, hcontents⟩ := Disk.exists_file_of_read hread
  have hplace : reached.place = place ++ [outputName] := by
    refine h.follow_child hleads (by decide +kernel) (fun path hlink => ?_) hfollow
    cases hfile.symm.trans hlink
  rw [hplace, hfile] at hfound
  obtain rfl := Entry.file.inj (Option.some.inj hfound)
  exact hcontents

theorem HasScratch.settled (h : HasScratch shop world fresh place)
    (hprepares : Prepares shop options world fresh) (hchosen : options.chosen? = none)
    (hhanded : Handed shop options (scratchSource shop) latex fresh given left)
    (hspares : Spares shop options latex fresh place) :
    Settled shop options latex world fresh place given left
      (typeset shop options latex world).1 (typeset shop options latex world).2 := by
  have hleads := h.leads_left hhanded hspares
  have hplace := Disk.place_ne_nil_of_none h.spot
  have hafter := h.disk_after hprepares hchosen hhanded hspares
  have hgone (hkeep : options.keep = false) (p : Place) (hp : place <+: p) :
      (typeset shop options latex world).2.disk.get? p = none := by
    rw [hkeep] at hafter
    obtain ⟨⟨⟩, -⟩ | ⟨-, hafter⟩ := hafter
    rw [hafter, Disk.get?_eraseTree hplace, if_pos hp]
  constructor
  · obtain ⟨hkeep, hsame⟩ | ⟨hkeep, -⟩ := hafter
    · exact iff_of_true (hsame.leadsInto hleads).directory hkeep
    · rw [hkeep, Disk.isDirectory, hgone hkeep place List.prefix_rfl]
      decide
  · exact hgone
  · rintro ⟨ready, hwrites⟩ hlog
    obtain ⟨file, hcontents, hgroup, hgiven⟩ := h.source_spec hhanded hwrites hlog
    refine ⟨file, hcontents, hgiven, fun hkeep hleft => ?_⟩
    rw [hkeep] at hafter
    obtain ⟨-, hsame⟩ | ⟨⟨⟩, -⟩ := hafter
    rw [hsame.get?_eq, hleft]
    intro l hl hfile
    obtain rfl :=
      (sameFile_iff_of_groupAt ((Disk.groupAt_of_file hleft).trans hgroup) l).mp hfile
    exact hlog hl
  · intro bytes hresult
    rw [typeset_of_prepares hprepares hchosen] at hresult
    exact h.output_spec hhanded hspares hresult
  · exact fun p => h.get?_given hhanded
  · intro p hp hlog
    obtain ⟨-, hsame⟩ | ⟨-, hafter⟩ := hafter
    · exact hsame.get?_eq hlog
    · rw [hafter, Disk.get?_eraseTree hplace, if_neg hp]

/-- **The scratch directory is there in the end just if it is to be kept, and nothing else is
touched.** Either it cannot be made, and nothing happens; or it is made where nothing was, and the
work is settled if the command spares it, however it has ended. -/
theorem typeset_scratch (shop : Workshop) (options : Options) (latex : Text) (world : World)
    (hchosen : options.chosen? = none) (htree : world.disk.IsTree) :
    (∃ refusal, world.disk.makeDirectory world.here shop.scratch.text = .error refusal ∧
        typeset shop options latex world = (.error (.refused refusal), world)) ∨
      ∃ disk place, world.disk.makeDirectory world.here shop.scratch.text = .ok disk ∧
        HasScratch shop world { world with disk } place ∧
        (Spares shop options latex { world with disk } place →
          ∃ given left,
            Handed shop options (scratchSource shop) latex { world with disk } given left ∧
            Settled shop options latex world { world with disk } place given left
              (typeset shop options latex world).1 (typeset shop options latex world).2) := by
  cases hmake : world.disk.makeDirectory world.here shop.scratch.text with
  | error refusal =>
    refine .inl ⟨refusal, rfl, Action.bind_of_error ?_⟩
    rw [prepare, hchosen, Option.isNone_none, if_pos rfl, Action.bind_get, hmake]
    rfl
  | ok disk =>
    have hprepares : Prepares shop options world { world with disk } := by
      rw [Prepares, hchosen]
      exact ⟨disk, hmake, rfl⟩
    obtain ⟨place, h⟩ := hprepares.exists_hasScratch hchosen htree
    refine .inr ⟨disk, place, rfl, h, fun hspares => ?_⟩
    obtain ⟨given, left, hhanded⟩ :=
      exists_handed shop options (scratchSource shop) latex { world with disk }
    exact ⟨given, left, hhanded, h.settled hprepares hchosen hhanded hspares⟩

/-- The name of an auxiliary file of the source. -/
def auxName : Text := "timetable.aux"

/-- A workshop in which every command leaves an output and an auxiliary file where it is run. -/
def printingShop : Workshop where
  launch disk here _ :=
    let disk := disk.store (here ++ [outputName]) (Text.toBytes "P")
    .ok ⟨0, .empty, .empty, disk.store (here ++ [auxName]) .empty⟩
  scratch := .ofText "/tmp/scratch"

def tmpWorld : World := .ofDisk { entries := [(["tmp"], .commonDirectory)] } []

def scratchWorld : World :=
  { tmpWorld with disk := tmpWorld.disk.put ["tmp", "scratch"] tmpWorld.disk.newDirectory }

theorem makeDirectory_tmp : tmpWorld.disk.makeDirectory tmpWorld.here printingShop.scratch.text =
    .ok scratchWorld.disk := rfl

theorem spares_printing (keep : Bool) :
    Spares printingShop { keep } "x" scratchWorld ["tmp", "scratch"] := by
  rintro ready finished ⟨-, disk, hwrite, rfl⟩ ⟨-, hstart⟩
  obtain rfl : scratchWorld.disk.store ["tmp", "scratch", scratchName] (Text.toBytes "x") = disk :=
    (Prod.mk.inj hwrite).2
  obtain rfl := Except.ok.inj hstart
  exact ⟨⟨false, rfl⟩, rfl⟩

theorem typeset_scratch_printing :
    (typeset printingShop { keep := true } "x" tmpWorld).2.disk.isDirectory ["tmp", "scratch"] =
        true ∧
      (typeset printingShop {} "x" tmpWorld).2.disk.get? ["tmp", "scratch", auxName] =
        none := by
  have hsettled (keep : Bool) : ∃ given left,
      Settled printingShop { keep } "x" tmpWorld scratchWorld ["tmp", "scratch"] given left
        (typeset printingShop { keep } "x" tmpWorld).1
        (typeset printingShop { keep } "x" tmpWorld).2 := by
    have htree : tmpWorld.disk.IsTree := by decide +kernel
    obtain ⟨refusal, hrefused, -⟩ | ⟨disk, place, hmake, h, hsettled⟩ :=
      typeset_scratch printingShop { keep } "x" tmpWorld rfl htree
    · cases makeDirectory_tmp.symm.trans hrefused
    · obtain rfl : scratchWorld.disk = disk := Except.ok.inj (makeDirectory_tmp.symm.trans hmake)
      obtain ⟨slash, hfollow⟩ := h.leads.follow
      obtain ⟨rfl, -⟩ := Disk.Target.mk.inj (Except.ok.inj hfollow)
      obtain ⟨given, left, -, hsettled⟩ := hsettled (spares_printing keep)
      exact ⟨given, left, hsettled⟩
  obtain ⟨_, _, hkept⟩ := hsettled true
  obtain ⟨_, _, hgone⟩ := hsettled false
  exact ⟨hkept.kept_iff.mpr rfl, hgone.gone rfl _ ⟨[auxName], rfl⟩⟩

end Typeset

end Agenda
