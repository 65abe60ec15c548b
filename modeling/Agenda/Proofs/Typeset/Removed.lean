import Agenda.Proofs.Typeset.Outcome

/-!
# What is lost beside a source

However the work beside a source has ended, the files that its stem accepts as a pattern with a dot
and anything behind go from the disk that the command has left, up to one that something stands
against, and all else stays (`runWith_sweeps`). For a stem without the signs of a pattern these are
the files that start with the stem and a dot. For another one they need not be
(`sweeps_other_files`).

Where the disk refuses the source, the tool is not run and the stage fails with that refusal. The
files go all the same, although none of them is the work of the stage, and what stands against it
stops the stage (`runWith_refused`). Only a user who asks for auxiliary files to be kept loses
nothing; otherwise a directory in the way of the source costs the files beside it, and a source that
may not be written is lost itself (`refused_loses_files`).
-/

namespace Agenda

namespace Typeset

variable {shop : Workshop} {options : Options} {source : Disk.Path} {latex : Text}
  {world ready : World} {left spoiled : Disk} {refusal : Disk.Refusal}

/-! ### The disk in the end -/

/-- What the stage leaves is what its work leaves, but for a note about a failure. -/
theorem snd_runWith (shop : Workshop) (options : Options) (latex : Text) (world : World) :
    ((stage shop).runWith options latex world).2 = (typeset shop options latex (begun shop world)).2 ∨
      ∃ note, ((stage shop).runWith options latex world).2 =
        Journal.note note (typeset shop options latex (begun shop world)).2 := by
  have happly : (stage shop).apply options latex (Journal.note (stage shop).startNote world) =
      typeset shop options latex (begun shop world) := rfl
  rw [Stage.runWith, happly]
  rcases typeset shop options latex (begun shop world) with ⟨trouble | bytes, after⟩
  · dsimp only
    cases (stage shop).declares trouble with
    | true => exact .inr ⟨_, rfl⟩
    | false => exact .inl rfl
  · exact .inl rfl

/-- Whatever stops it, the last thing to do leaves the world that counts. -/
theorem snd_andFinally {α : Type} (action : World.Act α) (last : World.Act Unit) (world : World) :
    (andFinally action last world).2 = (last (action world).2).2 := by
  unfold andFinally
  split
  rename_i result next heq
  rw [heq]
  split
  all_goals
    rename_i hlast
    rw [hlast]

/-- The work on a source that a user chose has nothing to be done before it. -/
theorem typeset_of_chosen (shop : Workshop) (hsource : options.chosen? = some source) (latex : Text)
    (world : World) :
    typeset shop options latex world =
      andFinally (produce shop options source latex) (finish shop options) world := by
  have hprepare : prepare shop options world = (.ok (), world) := by
    rw [prepare, hsource]
    rfl
  have hpath : sourcePath shop options = source := by
    rw [sourcePath, hsource]
    rfl
  rw [← hpath]
  exact Action.bind_of_ok hprepare

/-- The work beside a source ends with what is left where files have been removed. -/
theorem snd_typeset (hsource : options.chosen? = some source)
    (hleaves : Leaves shop options source latex world left) :
    ∃ produced : World, produced.disk = left ∧ produced.here = world.here ∧
      produced.logPlace? = world.logPlace? ∧
      ((options.keep = true ∧ World.Noted world.logPlace? produced
          (typeset shop options latex world).2) ∨
        options.keep = false ∧ CutFrom produced (typeset shop options latex world).2
          (Removed left world.here source)) := by
  obtain ⟨rfl, hhere, hlog⟩ :=
    (produces shop options source latex world).disk_of_leaves hleaves
  refine ⟨_, rfl, hhere, hlog, ?_⟩
  rw [typeset_of_chosen shop hsource, snd_andFinally, finish]
  cases options.keep with
  | true => exact .inl ⟨rfl, World.noted_note _ hlog⟩
  | false =>
    obtain ⟨result, after, hsweep, -, -, hcut⟩ :=
      sweepBeside_spec source (produce shop options source latex world).2
    rw [hhere] at hcut
    rw [if_neg Bool.false_ne_true, hsource]
    simp only [hsweep]
    exact .inr ⟨trivial, hcut⟩

/-- In the end the files are gone that were to be removed, and all else is as the work left it. -/
theorem snd_runWith_spec (hsource : options.chosen? = some source)
    (hleaves : Leaves shop options source latex (begun shop world) left) :
    (options.keep = false → ∀ p file, Removed left world.here source p →
        left.get? p = some (.file file) →
          ((stage shop).runWith options latex world).2.disk.get? p = none) ∧
      ∀ p, (options.keep = true ∨ ¬ Removed left world.here source p) →
        (∀ l, world.logPlace? = some l → ¬ left.SameFile l p) →
          ((stage shop).runWith options latex world).2.disk.get? p = left.get? p := by
  have hbegun : World.Noted world.logPlace? world (begun shop world) := World.noted_note _ rfl
  obtain ⟨produced, rfl, -, hlog, hends⟩ := snd_typeset hsource hleaves
  rw [hbegun.log] at hlog hends
  rw [hbegun.here] at hends
  have hafter := snd_runWith shop options latex world
  constructor
  · intro hkeep p file hremoved hfile
    obtain ⟨h, -⟩ | ⟨-, hcut⟩ := hends
    · cases hkeep.symm.trans h
    have hgone := hcut.gone p file hremoved hfile
    obtain heq | ⟨note, heq⟩ := hafter
    · rw [heq, hgone]
    · rw [heq]
      exact World.get?_note_eq_none hgone note
  · intro p hkept hfar
    obtain ⟨-, hnoted⟩ | ⟨hkeep, hcut⟩ := hends
    · exact (hnoted.trans (World.noted_of_eq_or_eq_note hafter hnoted.log)).disk.get?_eq hfar
    · rw [hkeep] at hkept
      have hstays := hcut.kept p (hkept.resolve_left Bool.false_ne_true) fun l hl => hfar l (hlog ▸ hl)
      have hnoted := World.noted_of_eq_or_eq_note hafter (hcut.log.trans hlog)
      exact (hnoted.disk.get?_eq fun l hl hsame => hfar l hl (hcut.pruned.same l p hsame)).trans hstays

/-! ### A source that has been written -/

/-- Whether nothing stands against removing the files in the directory of a source, which is at a
place: the directory can be read, of all that starts with the stem and a dot it can be told whether
it is a file, and every file is found and may be removed. -/
structure Clears (left : Disk) (here : Place) (source : Disk.Path) (place : Place) : Prop where
  stands : StandsAt left here source place
  list : left.limits.refuses .list place = none
  told : ∀ name, Disk.isName name = true → left.get? (place ++ [name]) ≠ none →
    (source.stem ++ "." : Text) <+: name → left.stray? here (beside source name) = none
  files : ∀ name file, left.get? (place ++ [name]) = some (.file file) →
    Disk.isName name = true ∧ left.finds Entry.isFile here (beside source name) = .ok true ∧
      left.limits.refuses .remove (place ++ [name]) = none

/-- Where nothing stands against it, the files that are removed are those that start with the stem
and a dot, if that holds no sign of a pattern. -/
theorem Clears.removed_iff {here place : Place} (h : Clears left here source place)
    (hplain : ∀ c ∈ source.stem, Disk.Glob.IsPlain c) {name : Text} {file : File}
    (hfile : left.get? (place ++ [name]) = some (.file file)) :
    Removed left here source (place ++ [name]) ↔ (source.stem ++ "." : Text) <+: name := by
  have hpattern := Disk.Glob.parse?_of_isPlain hplain
  obtain ⟨hname, hfound, hremove⟩ := h.files name file hfile
  have hthere : left.get? (place ++ [name]) ≠ none := by
    rw [hfile]
    exact nofun
  constructor
  · rintro ⟨place', pattern, hstands, -, hparse, ⟨other, before, behind, hmatched, heq, -⟩, -⟩
    obtain rfl := h.stands.unique hstands
    obtain rfl := Option.some.inj (hparse.symm.trans hpattern)
    obtain rfl := List.singleton_inj.mp (List.append_cancel_left heq)
    have hmem : name ∈ matched left place' _ := hmatched ▸ List.mem_append_right _ List.mem_cons_self
    exact (Disk.Glob.accepts_parse_of_isPlain hplain name).mp (mem_matched_iff.mp hmem).2.1
  · intro hprefix
    have haccepts := (Disk.Glob.accepts_parse_of_isPlain hplain name).mpr hprefix
    have hmem := mem_matched_iff.mpr ⟨hthere, haccepts, hname⟩
    obtain ⟨before, behind, hmatched⟩ := List.append_of_mem hmem
    refine ⟨place, _, h.stands, h.list, hpattern, ⟨name, before, behind, hmatched, rfl, hfound,
      fun other hother => ?_⟩, hremove⟩
    have hother' : other ∈ matched left place _ := hmatched ▸ List.mem_append_left _ hother
    obtain ⟨hsome, haccepts', hname'⟩ := mem_matched_iff.mp hother'
    exact h.told other hname' hsome ((Disk.Glob.accepts_parse_of_isPlain hplain other).mp haccepts')

/-- **In the end the files are gone that the stem of the source accepts as a pattern, up to one that
something stands against, and all else is as the command left it**, but for the log file. If no
character of the stem is a sign of a pattern and nothing stands against any of them, these are the
files whose names start with the stem and a dot. -/
theorem runWith_sweeps (hsource : options.chosen? = some source) (hkeep : options.keep = false)
    (hwrites : Writes options source latex (begun shop world) ready)
    (hleft : Left shop options source ready left) :
    (∀ p file, Removed left world.here source p → left.get? p = some (.file file) →
        ((stage shop).runWith options latex world).2.disk.get? p = none) ∧
      (∀ p, ¬ Removed left world.here source p →
        (∀ l, world.logPlace? = some l → ¬ left.SameFile l p) →
          ((stage shop).runWith options latex world).2.disk.get? p = left.get? p) ∧
      ((∀ c ∈ source.stem, Disk.Glob.IsPlain c) → ∀ place, Clears left world.here source place →
        ∀ name file, left.get? (place ++ [name]) = some (.file file) →
          (Removed left world.here source (place ++ [name]) ↔
            (source.stem ++ "." : Text) <+: name)) := by
  obtain ⟨hgone, hkept⟩ := snd_runWith_spec hsource (.written hwrites hleft)
  exact ⟨hgone hkeep, fun p hp => hkept p (.inr hp),
    fun hplain place hclears name file hfile => hclears.removed_iff hplain hfile⟩

def emptyFiles (names : List Text) : Disk :=
  { entries := names.map fun name => ([name], .file { contents := .empty }) }

/-- A workshop in which every command leaves an output and ends well. -/
def outputShop (output : Text) : Workshop where
  launch disk here _ := .ok ⟨0, .empty, .empty, disk.store (here ++ [output]) (Text.toBytes "PDF")⟩
  scratch := .ofText "/tmp/scratch"

/-- A world with an auxiliary file of a source and another file. -/
def auxWorld : World := .ofDisk (emptyFiles ["x.aux", "xy.aux"]) []

theorem runWith_sweeps_plain :
    let after := ((stage (outputShop "x.pdf")).runWith { source := some "x.tex" } "x" auxWorld).2.disk
    after.get? ["x.aux"] = none ∧ after.get? ["xy.aux"] = some (.file { contents := .empty }) := by
  let source := Disk.Path.ofText "x.tex"
  let written := auxWorld.disk.store ["x.tex"] (Text.toBytes "x")
  let left := written.store ["x.pdf"] (Text.toBytes "PDF")
  let ready : World := { auxWorld with disk := written }
  have hwrites : Writes { source := some "x.tex" } source "x" (begun (outputShop "x.pdf") auxWorld)
      ready := ⟨rfl, written, rfl, rfl⟩
  have hleft : Left (outputShop "x.pdf") { source := some "x.tex" } source ready left :=
    .inl ⟨⟨0, .empty, .empty, left⟩, ⟨by decide, rfl⟩, rfl⟩
  obtain ⟨hgone, hkept, hplain⟩ := runWith_sweeps rfl rfl hwrites hleft
  have hstem : ∀ c ∈ source.stem, Disk.Glob.IsPlain c := by
    intro c hc
    obtain rfl := List.mem_singleton.mp (show c ∈ ['x'] from hc)
    decide
  have hchildren (name : Text) (h : left.get? ([] ++ [name]) ≠ none) :
      name = "x.aux" ∨ name = "xy.aux" ∨ name = "x.tex" ∨ name = "x.pdf" := by
    have hmem := mem_children_iff.mpr h
    rw [show left.children [] = ["x.aux", "xy.aux", "x.tex", "x.pdf"] from rfl] at hmem
    simpa using hmem
  have hclears : Clears left auxWorld.here source [] := by
    refine ⟨⟨rfl, ⟨false, rfl⟩, ⟨493, rfl⟩⟩, rfl, fun name _ h _ => ?_, fun name file h => ?_⟩
    · obtain rfl | rfl | rfl | rfl := hchildren name h <;> rfl
    · have hsome : left.get? ([] ++ [name]) ≠ none := by rw [h]; exact nofun
      obtain rfl | rfl | rfl | rfl := hchildren name hsome <;>
        exact ⟨by decide +kernel, by decide +kernel, rfl⟩
  have hremoved (name : Text) (file : File) := hplain hstem [] hclears name file
  exact ⟨hgone ["x.aux"] _ ((hremoved "x.aux" _ rfl).mpr (by decide)) rfl,
    (hkept ["xy.aux"] (mt (hremoved "xy.aux" _ rfl).mp (by decide)) nofun).trans rfl⟩

/-- **Not only the files beside the source are removed, and not all of them**, if its name holds
brackets: a list of characters stands for each of them, and not for itself. -/
theorem sweeps_other_files :
    let after := ((stage (outputShop "a[1].pdf")).runWith { source := some "a[1].tex" } "x"
      (.ofDisk (emptyFiles ["a1.aux", "a2.aux"]) [])).2.disk
    after.get? ["a1.aux"] = none ∧ (after.get? ["a2.aux"]).isSome ∧
      (after.get? ["a[1].tex"]).isSome ∧ (after.get? ["a[1].pdf"]).isSome := by
  decide +kernel

/-! ### A source that cannot be written -/

/-- Whether a source is refused by the disk of a world, where its path can be handed to the system;
and the disk that is left of writing it. -/
structure Refuses (source : Disk.Path) (latex : Text) (world : World) (refusal : Disk.Refusal)
    (spoiled : Disk) : Prop where
  path : source.text.contains '\x00' = false
  write : world.disk.write world.here source.text (Text.toBytes latex) = (some refusal, spoiled)

def refusedFault (source : Disk.Path) (refusal : Disk.Refusal) : Trouble :=
  .fault (.unwritableSource source.text refusal)

theorem produce_of_refuses (shop : Workshop) (options : Options)
    (h : Refuses source latex world refusal spoiled) :
    produce shop options source latex world =
      (.error (refusedFault source refusal), { world with disk := spoiled }) := by
  have hfile := World.writeFile_eq source.text (Text.toBytes latex)
    (fun refusal => refusedFault source refusal) world
  rw [h.path, if_neg Bool.false_ne_true, h.write] at hfile
  exact Action.bind_of_error hfile

/-- Of a refused source nothing comes but the last thing to do. -/
theorem typeset_of_refuses (shop : Workshop) (hsource : options.chosen? = some source)
    (h : Refuses source latex world refusal spoiled) :
    typeset shop options latex world =
      andFinally (fun world => (.error (refusedFault source refusal), { world with disk := spoiled }))
        (finish shop options) world := by
  rw [typeset_of_chosen shop hsource, andFinally, produce_of_refuses shop options h]
  rfl

/-- The outcome for a refused source hangs on whether something stands against removing the
auxiliary files. -/
theorem fst_runWith_of_refuses (shop : Workshop) (hsource : options.chosen? = some source)
    (h : Refuses source latex (begun shop world) refusal spoiled) :
    (options.QuietOn spoiled world.here ∧
      ((stage shop).runWith options latex world).1 = .ok (.failure (refusedFault source refusal))) ∨
    ¬ options.QuietOn spoiled world.here ∧
      ∃ trouble, ((stage shop).runWith options latex world).1 = .error trouble := by
  have htypeset := typeset_of_refuses shop hsource h
  have hhere : (begun shop world).here = world.here :=
    (World.noted_note (stage shop).startNote rfl).here
  rw [← hhere]
  obtain ⟨hquiet, after, hfinish⟩ | ⟨hloud, trouble, after, hfinish, hfault⟩ :=
    finish_spec shop options { begun shop world with disk := spoiled }
  · refine .inl ⟨hquiet, ?_⟩
    rw [fst_runWith, htypeset, andFinally_apply hfinish]
    rfl
  · refine .inr ⟨hloud, trouble, ?_⟩
    rw [fst_runWith, htypeset, andFinally_apply_error hfinish]
    exact if_neg (Bool.eq_false_iff.mp hfault)

/-- For a refused source the way in which commands are run does not matter. -/
theorem runWith_launch_of_refuses (hsource : options.chosen? = some source)
    (h : Refuses source latex (begun shop world) refusal spoiled) (launch : Launcher) :
    (stage { shop with launch }).runWith options latex world =
      (stage shop).runWith options latex world := by
  have htypeset : typeset { shop with launch } options latex (begun shop world) =
      typeset shop options latex (begun shop world) := by
    rw [typeset_of_refuses _ hsource h, typeset_of_refuses shop hsource h]
    rfl
  have happly (other : Workshop) :
      (stage other).apply options latex (Journal.note (stage other).startNote world) =
        typeset other options latex (begun other world) := rfl
  have hbegun : begun { shop with launch } world = begun shop world := rfl
  rw [Stage.runWith, Stage.runWith, happly, happly, hbegun, htypeset]
  rfl

/-- **The files of a user are lost although the source could not be written.** The tool is not run
and the stage fails with the refusal, unless something stands against removing the auxiliary files,
which stops it. Everything stays but for the log file and for the source itself, if it could be
opened, where auxiliary files are kept; otherwise the files are gone that the stem of the source
accepts, up to one that something stands against, and nothing else is. -/
theorem runWith_refused (hsource : options.chosen? = some source)
    (hrefuses : Refuses source latex (begun shop world) refusal spoiled) :
    (∀ launch, (stage { shop with launch }).runWith options latex world =
        (stage shop).runWith options latex world) ∧
      (((stage shop).runWith options latex world).1 =
          .ok (.failure (.fault (.unwritableSource source.text refusal))) ↔
        options.QuietOn spoiled world.here) ∧
      (¬ options.QuietOn spoiled world.here →
        ∃ trouble, ((stage shop).runWith options latex world).1 = .error trouble) ∧
      (∀ p, (options.keep = true ∨ ¬ Removed spoiled world.here source p) →
        (∀ l, world.logPlace? = some l → ¬ world.disk.SameFile l p) →
        (∀ place, (begun shop world).disk.findWritable world.here source.text = .ok place →
          ¬ world.disk.SameFile place p) →
          ((stage shop).runWith options latex world).2.disk.get? p = world.disk.get? p) ∧
      (options.keep = false → ∀ p file, Removed spoiled world.here source p →
        spoiled.get? p = some (.file file) →
          ((stage shop).runWith options latex world).2.disk.get? p = none) := by
  have hbegun : World.Noted world.logPlace? world (begun shop world) := World.noted_note _ rfl
  obtain ⟨hgone, hkept⟩ := snd_runWith_spec hsource (.refused hrefuses.path hrefuses.write)
  have hspoiled := Disk.sameBut_of_write hrefuses.write
  rw [hbegun.here] at hspoiled
  refine ⟨runWith_launch_of_refuses hsource hrefuses, ?_, ?_, fun p hstays hlog hopened => ?_, hgone⟩
  · obtain ⟨hquiet, hresult⟩ | ⟨hloud, trouble, hresult⟩ :=
      fst_runWith_of_refuses shop hsource hrefuses
    · exact iff_of_true hresult hquiet
    · refine iff_of_false ?_ hloud
      rw [hresult]
      exact nofun
  · intro hloud
    obtain ⟨h, -⟩ | ⟨-, hresult⟩ := fst_runWith_of_refuses shop hsource hrefuses
    · exact absurd h hloud
    · exact hresult
  · have hsame (q : Place) : spoiled.SameFile q p ↔ world.disk.SameFile q p :=
      (hspoiled.sameFile_iff q p).trans (hbegun.disk.sameFile_iff q p)
    have hwritten : spoiled.get? p = (begun shop world).disk.get? p :=
      hspoiled.get?_eq fun place hplace h =>
        hopened place (Disk.eq_ok_of_toOption hplace) ((hbegun.disk.sameFile_iff place p).mp h)
    exact (hkept p hstays fun l hl h => hlog l hl ((hsame l).mp h)).trans
      (hwritten.trans (hbegun.disk.get?_eq hlog))

/-- A disk on which a directory stands where a source is to be written, beside a file. -/
def blockedDisk : Disk :=
  { entries := [(["x.tex"], .commonDirectory), (["x.bib"], .file { contents := .empty })] }

/-- A disk with a source that may not be written. -/
def lockedDisk : Disk :=
  { entries := [(["x.tex"], .file { contents := .empty, writable := false })] }

/-- What the stage makes of a source at `x.tex`, with a command that leaves an output. -/
def outputRun (disk : Disk) : Except Trouble (Outcome Trouble ByteArray) × World :=
  (stage (outputShop "x.pdf")).runWith { source := some "x.tex" } "x" (.ofDisk disk [])

theorem refuses_blocked :
    Refuses (.ofText "x.tex") "x" (begun (outputShop "x.pdf") (.ofDisk blockedDisk []))
      ⟨.isDirectory, some "x.tex"⟩ blockedDisk :=
  ⟨by decide, rfl⟩

theorem runWith_refused_blocked :
    (outputRun blockedDisk).2.disk.get? ["x.bib"] = none ∧
      (outputRun blockedDisk).2.disk.get? ["x.tex"] = some .commonDirectory := by
  let options : Options := { source := some "x.tex" }
  have hchosen : options.chosen? = some (.ofText "x.tex") := rfl
  obtain ⟨-, -, -, hkept, hlost⟩ := runWith_refused hchosen refuses_blocked
  have hstands : StandsAt blockedDisk [] (.ofText "x.tex") [] := ⟨rfl, ⟨false, rfl⟩, ⟨493, rfl⟩⟩
  have hpattern : Disk.Glob.parse? ((Disk.Path.ofText "x.tex").stem ++ ".*") =
      some (Disk.Glob.parse "x.*") := rfl
  refine ⟨hlost rfl ["x.bib"] _ ⟨[], _, hstands, rfl, hpattern,
    ⟨"x.bib", ["x.tex"], [], by decide +kernel, rfl, by decide +kernel, by decide +kernel⟩, rfl⟩ rfl, ?_⟩
  refine (hkept ["x.tex"] (.inr ?_) nofun nofun).trans rfl
  rintro ⟨place, _, hstands', -, -, ⟨name, -, -, -, heq, hfound, -⟩, -⟩
  obtain rfl := hstands.unique hstands'
  obtain rfl : "x.tex".toList = name := List.singleton_inj.mp heq
  exact absurd hfound (by decide +kernel)

/-- **A source that cannot be written costs files.** A directory in its way is reported, and the
file beside it is gone; a source that may not be written is removed itself. -/
theorem refused_loses_files :
    (¬ ∀ (shop : Workshop) (options : Options) (source : Disk.Path) (latex : Text) (world : World)
        (refusal : Disk.Refusal), options.chosen? = some source →
      Refuses source latex (begun shop world) refusal (begun shop world).disk →
        ∀ p file, world.disk.get? p = some (.file file) →
          ((stage shop).runWith options latex world).2.disk.get? p = some (.file file)) ∧
      (outputRun blockedDisk).1 =
        .ok (.failure (.fault (.unwritableSource "x.tex" ⟨.isDirectory, some "x.tex"⟩))) ∧
      (outputRun blockedDisk).2.disk.get? ["x.bib"] = none ∧
      (outputRun lockedDisk).1 =
        .ok (.failure (.fault (.unwritableSource "x.tex" ⟨.denied, some "x.tex"⟩))) ∧
      (outputRun lockedDisk).2.disk.get? ["x.tex"] = none := by
  have hgone : (outputRun blockedDisk).2.disk.get? ["x.bib"] = none := by decide +kernel
  refine ⟨fun h => ?_, by decide +kernel, hgone, by decide +kernel, by decide +kernel⟩
  have hkept : (outputRun blockedDisk).2.disk.get? ["x.bib"] = some (.file { contents := .empty }) :=
    h (outputShop "x.pdf") { source := some "x.tex" } _ "x" _ _ rfl refuses_blocked ["x.bib"] _ rfl
  cases hkept.symm.trans hgone

end Typeset

end Agenda
