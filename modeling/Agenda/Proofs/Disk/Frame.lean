import Agenda.Disk.Basic

/-!
# What a written file leaves alone

A file that is written may be new and may have several names. All of its names change together, and
nothing else does (`WrittenAt`). Whatever path could be followed before can be followed afterwards,
and to the same place (`WrittenAt.follow_eq_ok_iff`), so that only a path to the written file itself
is read or opened in another way than before.
-/

namespace Agenda.Disk

/-! ### Names of one file -/

/-- The group of the file at a place, if there is a file and it is in a group. -/
def groupAt (disk : Disk) (place : Place) : Option Nat :=
  match disk.get? place with
  | some (.file file) => file.group
  | _ => none

/-- Whether two places name one file. -/
def SameFile (disk : Disk) (p q : Place) : Prop :=
  p = q ∨ disk.groupAt p ≠ none ∧ disk.groupAt q = disk.groupAt p

instance (disk : Disk) (p q : Place) : Decidable (disk.SameFile p q) :=
  inferInstanceAs (Decidable (_ ∨ _))

theorem sameFile_refl (disk : Disk) (p : Place) : disk.SameFile p p := .inl rfl

theorem groupAt_of_file {disk : Disk} {p : Place} {file : File}
    (h : disk.get? p = some (.file file)) : disk.groupAt p = file.group := by
  rw [groupAt, h]

/-- What is at a name of a file in a group is a file. -/
theorem exists_file_of_groupAt {disk : Disk} {p : Place} (h : disk.groupAt p ≠ none) :
    ∃ file, disk.get? p = some (.file file) ∧ disk.groupAt p = file.group := by
  rw [groupAt] at h
  split at h
  · rename_i file hfile
    exact ⟨file, hfile, groupAt_of_file hfile⟩
  · exact absurd rfl h

theorem ok_iff_of_toOption_eq {ε ε' α : Type} {x : Except ε α} {y : Except ε' α}
    (h : x.toOption = y.toOption) (value : α) : x = .ok value ↔ y = .ok value := by
  cases x <;> cases y <;> simp_all [Except.toOption]

theorem eq_ok_of_toOption {ε α : Type} {x : Except ε α} {value : α} (h : x.toOption = some value) :
    x = .ok value :=
  (ok_iff_of_toOption_eq (h.trans rfl : x.toOption = (.ok value : Except ε α).toOption) value).mpr rfl

theorem toOption_map {ε α β : Type} (f : α → β) (x : Except ε α) :
    (x.map f).toOption = x.toOption.map f := by
  cases x <;> rfl

/-! ### Storing -/

theorem get?_put_of_ne {disk : Disk} {place p : Place} (entry : Entry) (h : p ≠ place) :
    (disk.put place entry).get? p = disk.get? p := by
  by_cases hp : p = []
  · subst hp
    rfl
  · simp [get?, put, lookup_putIn, hp, h]

theorem lookup_filter (keep : Place → Bool) (entries : List (Place × Entry)) (p : Place) :
    (entries.filter fun (q, _) => keep q).lookup p =
      if keep p then entries.lookup p else none := by
  induction entries with
  | nil => simp
  | cons head rest ih =>
    obtain ⟨q, entry⟩ := head
    by_cases hp : p = q
    · subst hp
      cases hkeep : keep p <;> simp [hkeep, ih]
    · have hne : (p == q) = false := beq_eq_false_iff_ne.mpr hp
      cases hkeep : keep q <;> simp [List.lookup_cons, hkeep, hne, ih]

theorem place_ne_nil_of_file {disk : Disk} {place : Place} {file : File}
    (h : disk.get? place = some (.file file)) : place ≠ [] := by
  rintro rfl
  cases h

/-- An entry, or a file in its place if it is one of the same group. -/
def regrouped (file : File) : Entry → Entry
  | .file other => if other.group = file.group then .file file else .file other
  | entry => entry

theorem lookup_map_regrouped (file : File) (entries : List (Place × Entry)) (p : Place) :
    (entries.map fun (q, entry) => (q, regrouped file entry)).lookup p =
      (entries.lookup p).map (regrouped file) := by
  induction entries with
  | nil => rfl
  | cons head rest ih =>
    obtain ⟨q, entry⟩ := head
    simp only [List.map_cons, List.lookup_cons]
    cases p == q with
    | true => rfl
    | false => exact ih

/-- Of a file in a group all names are given the new file. -/
theorem get?_putFile_of_group {disk : Disk} {place : Place} {file : File}
    (h : file.group ≠ none) (p : Place) :
    (disk.putFile place file).get? p = (disk.get? p).map (regrouped file) := by
  have hentries : (disk.putFile place file).entries =
      disk.entries.map fun (q, entry) => (q, regrouped file entry) := by
    obtain ⟨group, hgroup⟩ := Option.ne_none_iff_exists'.mp h
    simp only [putFile, hgroup]
    refine List.map_congr_left fun (q, entry) _ => ?_
    cases entry with
    | file other => simp only [regrouped, hgroup]
    | directory mode => rfl
    | link path => rfl
  by_cases hp : p = []
  · subst hp
    rfl
  · simp only [get?, List.isEmpty_eq_false_iff.mpr hp, Bool.false_eq_true, if_false, hentries,
      lookup_map_regrouped]

/-- The file that stands where bytes were stored into one. -/
def refilled (disk : Disk) (file : File) (contents : ByteArray) : File :=
  { file with contents, time := disk.clock }

theorem store_of_file {disk : Disk} {place : Place} {file : File}
    (h : disk.get? place = some (.file file)) (contents : ByteArray) :
    disk.store place contents = disk.putFile place (disk.refilled file contents) := by
  rw [store, h]
  rfl

theorem store_of_none {disk : Disk} {place : Place} (h : disk.get? place = none)
    (contents : ByteArray) :
    disk.store place contents = disk.put place (.file (disk.newFile contents)) := by
  rw [store, h]

theorem get?_store_of_none {disk : Disk} {place : Place} (h : disk.get? place = none)
    (contents : ByteArray) :
    (disk.store place contents).get? place = some (.file (disk.newFile contents)) := by
  have hne : place ≠ [] := by
    rintro rfl
    cases h
  rw [store_of_none h, get?_put hne, if_pos rfl]

/-- Bytes stored into a file are found at all of its names. -/
theorem get?_store_of_sameFile {disk : Disk} {place p : Place} {file : File}
    (h : disk.get? place = some (.file file)) (hsame : disk.SameFile place p)
    (contents : ByteArray) :
    (disk.store place contents).get? p = some (.file (disk.refilled file contents)) := by
  rw [store_of_file h]
  by_cases hgroup : (disk.refilled file contents).group = none
  · -- A file in no group has one name.
    obtain rfl | ⟨hne, -⟩ := hsame
    · rw [putFile, hgroup]
      dsimp only
      rw [get?_put (place_ne_nil_of_file h), if_pos rfl]
    · rw [groupAt_of_file h] at hne
      exact absurd hgroup hne
  · rw [get?_putFile_of_group hgroup]
    obtain rfl | ⟨hne, heq⟩ := hsame
    · rw [h]
      simp [regrouped, refilled]
    · obtain ⟨other, hother, -⟩ := exists_file_of_groupAt (heq ▸ hne)
      rw [groupAt_of_file h, groupAt_of_file hother] at heq
      have hother' : other.group = (disk.refilled file contents).group := heq
      rw [hother, Option.map_some, regrouped, if_pos hother']

/-- Everything but the file that bytes are stored into stays. -/
theorem get?_store_of_not_sameFile {disk : Disk} {place p : Place}
    (h : ¬ disk.SameFile place p) (contents : ByteArray) :
    (disk.store place contents).get? p = disk.get? p := by
  have hne : p ≠ place := fun heq => h (.inl heq.symm)
  rw [store]
  split
  · rename_i file hfile
    by_cases hgroup : file.group = none
    · rw [putFile]
      simp only [hgroup]
      exact get?_put_of_ne _ hne
    · have hrefilled : (disk.refilled file contents).group ≠ none := hgroup
      refine (get?_putFile_of_group hrefilled p).trans ?_
      cases hentry : disk.get? p with
      | none => rfl
      | some entry =>
        cases entry with
        | directory mode => rfl
        | link path => rfl
        | file other =>
          have hother : other.group ≠ (disk.refilled file contents).group := fun heq =>
            h (.inr ⟨groupAt_of_file hfile ▸ hgroup,
              (groupAt_of_file hentry).trans (heq.trans (groupAt_of_file hfile).symm)⟩)
          rw [Option.map_some, regrouped, if_neg hother]
  · exact get?_put_of_ne _ hne

/-- A file takes as much as there is room for. -/
theorem exists_fill_eq (disk : Disk) (place : Place) (kept more : ByteArray) :
    ∃ refused contents, disk.fill place kept more = (refused, disk.store place contents) := by
  rw [fill]
  split
  · exact ⟨_, _, rfl⟩
  · split
    · exact ⟨_, _, rfl⟩
    · exact ⟨_, _, rfl⟩

/-! ### Files at the end of a path -/

/-- A file is opened for reading where its path leads to it and nothing is against it. -/
theorem findFile_eq_ok_iff {disk : Disk} {here place : Place} {path : Text} {file : File} :
    disk.findFile here path = .ok (place, file) ↔
      disk.follow here path = .ok ⟨place, false⟩ ∧ disk.get? place = some (.file file) ∧
        disk.limits.refuses .openToRead place = none ∧ file.readable = true := by
  rw [findFile]
  cases disk.follow here path with
  | error reason => simp
  | ok target =>
    obtain ⟨reached, slash⟩ := target
    dsimp only
    by_cases hplace : reached = place
    · subst hplace
      cases disk.get? reached with
      | none => simp
      | some entry =>
        cases entry with
        | directory mode => cases disk.limits.refuses .openToRead reached <;> simp
        | link path => simp
        | file other =>
          have hread : other = file ∧ file.readable = true ↔ other.readable = true ∧ other = file :=
            ⟨fun ⟨heq, h⟩ => ⟨heq ▸ h, heq⟩, fun ⟨h, heq⟩ => ⟨heq, heq ▸ h⟩⟩
          cases disk.limits.refuses .openToRead reached <;> cases slash <;> simp [hread]
          cases other.readable <;> simp
    · refine iff_of_false (fun h => hplace ?_) fun h =>
        hplace (congrArg Target.place (Except.ok.inj h.1))
      split at h
      all_goals try cases h
      split at h
      · cases h
      · split at h
        · exact (Prod.mk.inj (Except.ok.inj h)).1
        · cases h

/-- What is read are the bytes of a file, and the path leads to its place. -/
theorem read_eq_ok_iff {disk : Disk} {here : Place} {path : Text} {bytes : ByteArray} :
    disk.read here path = .ok bytes ↔
      ∃ place file, disk.findFile here path = .ok (place, file) ∧
        disk.limits.refuses .read place = none ∧ file.contents = bytes := by
  rw [read]
  cases disk.findFile here path with
  | error reason => simp
  | ok found =>
    obtain ⟨place, file⟩ := found
    constructor
    · intro h
      cases hrefuses : disk.limits.refuses .read place with
      | some reason => simp [hrefuses] at h
      | none =>
        simp only [hrefuses, Except.ok.injEq] at h
        exact ⟨place, file, rfl, hrefuses, h⟩
    · rintro ⟨_, _, hfound, hopen, rfl⟩
      obtain ⟨rfl, rfl⟩ := Prod.mk.inj (Except.ok.inj hfound)
      simp only [hopen]

theorem exists_file_of_read {disk : Disk} {here : Place} {path : Text} {bytes : ByteArray}
    (h : disk.read here path = .ok bytes) :
    ∃ target file, disk.follow here path = .ok target ∧
      disk.get? target.place = some (.file file) ∧ file.contents = bytes := by
  obtain ⟨place, file, hfound, -, hbytes⟩ := read_eq_ok_iff.mp h
  obtain ⟨hfollow, hfile, -⟩ := findFile_eq_ok_iff.mp hfound
  exact ⟨⟨place, false⟩, file, hfollow, hfile, hbytes⟩

/-! ### Paths that are opened alike -/

/-- Whether a path leads to the same in two disks, if it leads anywhere. -/
structure OpensAlike (disk other : Disk) (here : Place) (path : Text) : Prop where
  limits : other.limits = disk.limits
  follow : ∀ target, other.follow here path = .ok target ↔ disk.follow here path = .ok target
  found : ∀ target, disk.follow here path = .ok target →
    other.get? target.place = disk.get? target.place
  parent : ∀ target, disk.follow here path = .ok target →
    other.isDirectory target.place.dropLast = disk.isDirectory target.place.dropLast

namespace OpensAlike

variable {disk other : Disk} {here : Place} {path : Text} (h : OpensAlike disk other here path)
include h

theorem symm : OpensAlike other disk here path where
  limits := h.limits.symm
  follow target := (h.follow target).symm
  found target htarget := (h.found target ((h.follow target).mp htarget)).symm
  parent target htarget := (h.parent target ((h.follow target).mp htarget)).symm

theorem findFile_eq_ok {found : Place × File} (hfound : disk.findFile here path = .ok found) :
    other.findFile here path = .ok found := by
  rw [findFile] at hfound ⊢
  split at hfound
  · cases hfound
  · rename_i target htarget
    rw [(h.follow target).mpr htarget]
    dsimp only
    rwa [h.found target htarget, h.limits]

theorem findWritable_eq_ok {place : Place} (hplace : disk.findWritable here path = .ok place) :
    other.findWritable here path = .ok place := by
  rw [findWritable] at hplace ⊢
  split at hplace
  · cases hplace
  · rename_i target htarget
    rw [(h.follow target).mpr htarget]
    dsimp only
    rwa [h.found target htarget, h.parent target htarget, h.limits]

theorem read_eq_ok {bytes : ByteArray} (hread : disk.read here path = .ok bytes) :
    other.read here path = .ok bytes := by
  rw [read] at hread ⊢
  split at hread
  · cases hread
  · rename_i place file hfound
    rwa [h.findFile_eq_ok hfound, h.limits]

/-- A file is read alike in both disks. -/
theorem read_eq_ok_iff {bytes : ByteArray} :
    other.read here path = .ok bytes ↔ disk.read here path = .ok bytes :=
  ⟨h.symm.read_eq_ok, h.read_eq_ok⟩

theorem findWritable_eq_ok_iff {place : Place} :
    other.findWritable here path = .ok place ↔ disk.findWritable here path = .ok place :=
  ⟨h.symm.findWritable_eq_ok, h.findWritable_eq_ok⟩

end OpensAlike

/-! ### Written files -/

/-- Nothing can be passed through but a directory that may be searched. -/
theorem barrier?_eq_none_iff {disk : Disk} {p : Place} :
    disk.barrier? p = none ↔
      (∃ mode, disk.get? p = some (.directory mode)) ∧ disk.limits.refuses .search p = none := by
  rw [barrier?]
  cases disk.get? p with
  | none => simp
  | some entry => cases entry <;> simp

theorem toOption_walkWith_eq_none {disk : Disk} {start : Place} (h : disk.barrier? start ≠ none)
    (through : Bool) (jump : Place → List Text → Except Reason Place) (name : Text)
    (rest : List Text) : (disk.walkWith through jump start (name :: rest)).toOption = none := by
  rw [walkWith]
  split
  · rfl
  · exact absurd ‹_› h

/-- Whether a path does not lead to the file at a place. -/
def Avoids (disk : Disk) (here : Place) (path : Text) (place : Place) : Prop :=
  ∀ target, disk.follow here path = .ok target → ¬ disk.SameFile place target.place

/-- Whether a disk is another one with something written to the file at a place, which may have been
new then. -/
structure WrittenAt (place : Place) (before after : Disk) : Prop where
  spot : ∀ entry, before.get? place = some entry → ∃ file, entry = .file file
  /-- All names of the file are names of one still. -/
  names : ∀ p, before.SameFile place p →
    ∃ file, after.get? p = some (.file file) ∧ file.group = before.groupAt p
  others : ∀ p, ¬ before.SameFile place p → after.get? p = before.get? p
  limits : after.limits = before.limits

theorem limits_store (disk : Disk) (place : Place) (contents : ByteArray) :
    (disk.store place contents).limits = disk.limits := by
  rw [store]
  split
  · rw [putFile]
    split <;> rfl
  · rfl

theorem writtenAt_store {disk : Disk} {place : Place}
    (hspot : ∀ entry, disk.get? place = some entry → ∃ file, entry = .file file)
    (contents : ByteArray) : disk.WrittenAt place (disk.store place contents) where
  spot := hspot
  names p hsame := by
    cases hentry : disk.get? place with
    | none =>
      have hgroup : disk.groupAt place = none := by rw [groupAt, hentry]
      obtain rfl | ⟨hne, -⟩ := hsame
      · exact ⟨_, get?_store_of_none hentry contents, hgroup.symm⟩
      · exact absurd hgroup hne
    | some entry =>
      obtain ⟨file, rfl⟩ := hspot entry hentry
      refine ⟨_, get?_store_of_sameFile hentry hsame contents, ?_⟩
      have hgroup : disk.groupAt p = disk.groupAt place := by
        obtain rfl | ⟨-, heq⟩ := hsame
        · rfl
        · exact heq
      rw [hgroup, groupAt_of_file hentry]
      rfl
  others p h := get?_store_of_not_sameFile h contents
  limits := limits_store disk place contents

namespace WrittenAt

variable {place : Place} {before after : Disk} (h : WrittenAt place before after)
include h

theorem groupAt_eq (p : Place) : after.groupAt p = before.groupAt p := by
  by_cases hsame : before.SameFile place p
  · obtain ⟨file, hfile, hgroup⟩ := h.names p hsame
    rw [groupAt_of_file hfile, hgroup]
  · rw [groupAt, h.others p hsame, ← groupAt]

/-- Which places name one file stays as it was. -/
theorem sameFile_iff (p q : Place) : after.SameFile p q ↔ before.SameFile p q := by
  rw [SameFile, SameFile, h.groupAt_eq, h.groupAt_eq]

theorem trans {later : Disk} (hlater : WrittenAt place after later) :
    WrittenAt place before later where
  spot := h.spot
  names p hsame := by
    obtain ⟨file, hfile, hgroup⟩ := hlater.names p ((h.sameFile_iff place p).mpr hsame)
    exact ⟨file, hfile, hgroup.trans (h.groupAt_eq p)⟩
  others p hsame := by
    rw [hlater.others p (mt (h.sameFile_iff place p).mp hsame), h.others p hsame]
  limits := hlater.limits.trans h.limits

/-- What is at a place stays, or it was no directory and no link and is a file now. -/
theorem get?_cases (p : Place) :
    after.get? p = before.get? p ∨
      (∀ entry, before.get? p = some entry → ∃ file, entry = .file file) ∧
        ∃ file, after.get? p = some (.file file) := by
  by_cases hsame : before.SameFile place p
  · obtain ⟨file, hfile, -⟩ := h.names p hsame
    refine .inr ⟨fun entry hentry => ?_, file, hfile⟩
    obtain rfl | ⟨hne, heq⟩ := hsame
    · exact h.spot entry hentry
    · obtain ⟨other, hother, -⟩ := exists_file_of_groupAt (heq ▸ hne)
      exact ⟨other, Option.some.inj (hentry.symm.trans hother)⟩
  · exact .inl (h.others p hsame)

/-- Directories and links stay, and there are no others afterwards. -/
theorem get?_eq_some_iff {entry : Entry} (hentry : ∀ file, entry ≠ .file file) (p : Place) :
    after.get? p = some entry ↔ before.get? p = some entry := by
  obtain heq | ⟨hbefore, file, hafter⟩ := h.get?_cases p
  · rw [heq]
  · constructor
    · intro heq
      exact absurd (Option.some.inj (heq.symm.trans hafter)) (hentry file)
    · intro heq
      obtain ⟨other, hother⟩ := hbefore entry heq
      exact absurd hother (hentry other)

theorem isDirectory_eq (p : Place) : after.isDirectory p = before.isDirectory p := by
  obtain heq | ⟨hbefore, file, hafter⟩ := h.get?_cases p
  · rw [isDirectory, heq, isDirectory]
  · rw [isDirectory, isDirectory, hafter]
    cases hentry : before.get? p with
    | none => rfl
    | some entry =>
      obtain ⟨other, rfl⟩ := hbefore entry hentry
      rfl

theorem barrier?_eq_none_iff (p : Place) : after.barrier? p = none ↔ before.barrier? p = none := by
  have hdirectory (mode : Nat) : after.get? p = some (.directory mode) ↔
      before.get? p = some (.directory mode) := h.get?_eq_some_iff (by simp) p
  simp only [Disk.barrier?_eq_none_iff, hdirectory, h.limits]

/-- One way down leads where it led before if the jumps from links do, or it led nowhere and does so
still. -/
theorem toOption_walkWith (through : Bool) {jump jump' : Place → List Text → Except Reason Place}
    (hjump : ∀ start names, (jump' start names).toOption = (jump start names).toOption)
    (start : Place) (names : List Text) :
    (after.walkWith through jump' start names).toOption =
      (before.walkWith through jump start names).toOption := by
  have hlink (p : Place) (path : Text) :
      after.get? p = some (.link path) ↔ before.get? p = some (.link path) :=
    h.get?_eq_some_iff (by simp) p
  -- The induction is on the way before. A new file is met only where nothing could be passed.
  fun_induction before.walkWith through jump start names with
  | case1 start => rw [walkWith]
  | case2 start name rest reason hstart =>
    refine toOption_walkWith_eq_none (fun hopen => ?_) ..
    rw [h.barrier?_eq_none_iff, hstart] at hopen
    cases hopen
  | case3 start name rest hstart hlong =>
    rw [walkWith, (h.barrier?_eq_none_iff _).mpr hstart]
    simp only [if_pos hlong]
  | case4 start rest hstart hshort ih =>
    rw [walkWith, (h.barrier?_eq_none_iff _).mpr hstart]
    simp only [if_neg hshort, if_true, ih]
  | case5 start rest hstart hshort hdot ih =>
    rw [walkWith, (h.barrier?_eq_none_iff _).mpr hstart]
    simp only [if_neg hshort, if_neg hdot, if_true, ih]
  | case6 start name rest hstart hshort hdot hdots path hlast hnext =>
    rw [walkWith, (h.barrier?_eq_none_iff _).mpr hstart]
    simp only [if_neg hshort, if_neg hdot, if_neg hdots, (hlink _ _).mpr hnext, hlast, hjump]
  | case7 start name rest hstart hshort hdot hdots hnext ih =>
    rw [walkWith, (h.barrier?_eq_none_iff _).mpr hstart]
    simp only [if_neg hshort, if_neg hdot, if_neg hdots]
    split
    · rename_i path hpath hlast
      exact absurd hlast (hnext path ((hlink _ _).mp hpath))
    · exact ih

theorem toOption_walk (through : Bool) (links : Nat) (start : Place) (names : List Text) :
    (after.walk through links start names).toOption =
      (before.walk through links start names).toOption := by
  induction links generalizing start names with
  | zero => exact h.toOption_walkWith through (fun _ _ => rfl) start names
  | succ links ih => exact h.toOption_walkWith through ih start names

theorem follow_eq_ok_iff {here : Place} {path : Text} {target : Target} :
    after.follow here path = .ok target ↔ before.follow here path = .ok target := by
  rw [follow, follow, trace, trace]
  by_cases hempty : path.isEmpty = true
  · simp only [if_pos hempty]
  by_cases hlong : pathLimit ≤ (Text.toBytes path).size
  · simp only [if_neg hempty, if_pos hlong]
  simp only [if_neg hempty, if_neg hlong, Bool.true_or]
  refine ok_iff_of_toOption_eq ?_ target
  have hwalk := h.toOption_walk true linkLimit
    (if Text.startsWith "/" path then [] else here) (namesOf path)
  rw [toOption_map, toOption_map, hwalk]

variable {here : Place} {path : Text}

/-- A path that does not lead to the written file is opened as before. -/
theorem opensAlike (havoids : before.Avoids here path place) :
    before.OpensAlike after here path where
  limits := h.limits
  follow _ := h.follow_eq_ok_iff
  found target htarget := h.others _ (havoids target htarget)
  parent _ _ := h.isDirectory_eq _

end WrittenAt

/-! ### Disks that differ in one file -/

/-- Whether a disk is another one, or that one with something written to the file at a place. -/
def SameBut (place? : Option Place) (before after : Disk) : Prop :=
  after = before ∨ ∃ place, place? = some place ∧ WrittenAt place before after

namespace SameBut

variable {place? : Option Place} {before after : Disk}

theorem refl (place? : Option Place) (disk : Disk) : SameBut place? disk disk := .inl rfl

/-- Where there is no place to write at, nothing is written. -/
theorem eq_of_none (h : SameBut none before after) : after = before := by
  obtain heq | ⟨_, ⟨⟩, -⟩ := h
  exact heq

theorem trans {later : Disk} (h : SameBut place? before after) (hlater : SameBut place? after later) :
    SameBut place? before later := by
  obtain rfl | ⟨place, hplace, hwritten⟩ := h
  · exact hlater
  · obtain rfl | ⟨place', hplace', hwritten'⟩ := hlater
    · exact .inr ⟨place, hplace, hwritten⟩
    · obtain rfl : place' = place := Option.some.inj (hplace'.symm.trans hplace)
      exact .inr ⟨place', hplace, hwritten.trans hwritten'⟩

variable (h : SameBut place? before after)
include h

theorem get?_eq {p : Place} (hp : ∀ place, place? = some place → ¬ before.SameFile place p) :
    after.get? p = before.get? p := by
  obtain rfl | ⟨place, hplace, hwritten⟩ := h
  · rfl
  · exact hwritten.others p (hp place hplace)

theorem sameFile_iff (p q : Place) : after.SameFile p q ↔ before.SameFile p q := by
  obtain rfl | ⟨place, -, hwritten⟩ := h
  · rfl
  · exact hwritten.sameFile_iff p q

theorem opensAlike {here : Place} {path : Text}
    (havoids : ∀ place, place? = some place → before.Avoids here path place) :
    before.OpensAlike after here path := by
  obtain rfl | ⟨place, hplace, hwritten⟩ := h
  · exact ⟨rfl, fun _ => .rfl, fun _ _ => rfl, fun _ _ => rfl⟩
  · exact hwritten.opensAlike (havoids place hplace)

end SameBut

/-! ### Files that are written at the end of a path -/

/-- What may be written is a file or nothing, and the path leads to it. -/
theorem exists_target_of_findWritable {disk : Disk} {here : Place} {path : Text} {place : Place}
    (h : disk.findWritable here path = .ok place) :
    (∃ target, disk.follow here path = .ok target ∧ target.place = place) ∧
      ∀ entry, disk.get? place = some entry → ∃ file, entry = .file file := by
  rw [findWritable] at h
  cases htarget : disk.follow here path with
  | error reason => rw [htarget] at h; cases h
  | ok target =>
    rw [htarget] at h
    dsimp only at h
    cases hrefuses : disk.limits.refuses .openToWrite target.place with
    | some reason =>
      -- What the system does not open is not written, whatever it is.
      rw [hrefuses] at h
      dsimp only at h
      repeat' split at h
      all_goals cases h
    | none =>
      rw [hrefuses] at h
      dsimp only at h
      cases hentry : disk.get? target.place with
      | none =>
        rw [hentry] at h
        dsimp only at h
        split at h
        · split at h
          · cases h
          · obtain rfl := Except.ok.inj h
            exact ⟨⟨target, rfl, rfl⟩, fun entry h => nomatch hentry.symm.trans h⟩
        · cases h
      | some entry =>
        rw [hentry] at h
        cases entry with
        | directory mode => cases h
        | link path => cases h
        | file file =>
          dsimp only at h
          split at h
          · cases h
          · split at h
            · obtain rfl := Except.ok.inj h
              exact ⟨⟨target, rfl, rfl⟩, fun entry h =>
                ⟨file, (Option.some.inj (hentry.symm.trans h)).symm⟩⟩
            · cases h

/-- Bytes that are written without a refusal are stored at the end of the path. -/
theorem exists_store_of_write {disk after : Disk} {here : Place} {path : Text} {bytes : ByteArray}
    (h : disk.write here path bytes = (none, after)) :
    ∃ place, disk.findWritable here path = .ok place ∧ after = disk.store place bytes := by
  rw [write] at h
  cases hopened : disk.findWritable here path with
  | error reason => simp [hopened] at h
  | ok place =>
    simp only [hopened, Prod.mk.injEq, Option.map_eq_none_iff] at h
    refine ⟨place, rfl, ?_⟩
    obtain ⟨hrefused, rfl⟩ := h
    rw [fill] at hrefused ⊢
    split at hrefused
    · rw [ByteArray.empty_append]
    · split at hrefused
      · rename_i hroom
        rw [if_pos hroom, ByteArray.empty_append]
      · cases hrefused

/-- In a file that is opened all bytes have room, or those in front have that there is room for. -/
theorem write_of_opened {disk : Disk} {here place : Place} {path : Text}
    (hopened : disk.findWritable here path = .ok place) (bytes : ByteArray) :
    ((∀ room reason, disk.limits.room place = some (room, reason) → bytes.size ≤ room) ∧
        disk.write here path bytes = (none, disk.store place bytes)) ∨
      ∃ room reason, disk.limits.room place = some (room, reason) ∧ room < bytes.size ∧
        disk.write here path bytes =
          (some ⟨reason, none⟩, disk.store place (bytes.extract 0 room)) := by
  rw [write, hopened]
  dsimp only
  rw [fill]
  cases hlimit : disk.limits.room place with
  | none => exact .inl ⟨nofun, by rw [ByteArray.empty_append]; rfl⟩
  | some limit =>
    obtain ⟨room, reason⟩ := limit
    dsimp only
    rw [ByteArray.size_empty, Nat.zero_add, Nat.sub_zero, ByteArray.empty_append,
      ByteArray.empty_append]
    by_cases hroom : bytes.size ≤ room
    · rw [if_pos hroom]
      refine .inl ⟨?_, rfl⟩
      rintro _ _ ⟨⟩
      exact hroom
    · rw [if_neg hroom]
      exact .inr ⟨room, reason, rfl, Nat.lt_of_not_le hroom, rfl⟩

/-- Whatever is refused, nothing is changed but the file at the end of the path, if that was opened.
-/
theorem sameBut_of_write {disk after : Disk} {here : Place} {path : Text} {bytes : ByteArray}
    {refused : Option Refusal} (h : disk.write here path bytes = (refused, after)) :
    disk.SameBut (disk.findWritable here path).toOption after := by
  rw [write] at h
  cases hopened : disk.findWritable here path with
  | error reason =>
    rw [hopened] at h
    rw [← (Prod.mk.inj h).2]
    exact .refl ..
  | ok place =>
    obtain ⟨reason, contents, hfill⟩ := exists_fill_eq disk place .empty bytes
    simp only [hopened, hfill, Prod.mk.injEq] at h
    rw [← h.2]
    exact .inr ⟨place, rfl, writtenAt_store (exists_target_of_findWritable hopened).2 contents⟩

/-- Bytes that were stored are there. -/
theorem exists_file_store {disk : Disk} {place : Place}
    (hspot : ∀ entry, disk.get? place = some entry → ∃ file, entry = .file file)
    (contents : ByteArray) :
    ∃ file, (disk.store place contents).get? place = some (.file file) ∧
      file.contents = contents := by
  cases hentry : disk.get? place with
  | none => exact ⟨_, get?_store_of_none hentry contents, rfl⟩
  | some entry =>
    obtain ⟨file, rfl⟩ := hspot entry hentry
    exact ⟨_, get?_store_of_sameFile hentry (sameFile_refl disk place) contents, rfl⟩

/-! ### New files -/

/-- A disk with an empty file at a place if there was nothing. -/
def touched (disk : Disk) (place? : Option Place) : Disk :=
  match place? with
  | none => disk
  | some place => if (disk.get? place).isSome then disk else disk.store place .empty

theorem sameBut_touched (disk : Disk) (place? : Option Place) :
    SameBut place? disk (disk.touched place?) := by
  cases place? with
  | none => exact .refl none disk
  | some place =>
    rw [touched]
    split
    · exact .refl (some place) disk
    · rename_i hnew
      have hspot : ∀ entry, disk.get? place = some entry → ∃ file, entry = .file file :=
        fun entry hentry => absurd (hentry ▸ rfl) hnew
      exact .inr ⟨place, rfl, writtenAt_store hspot _⟩

/-- What can be read is read as before where a new file has been made. -/
theorem read_touched {disk : Disk} {here : Place} {path : Text} {bytes : ByteArray}
    (h : disk.read here path = .ok bytes) (place? : Option Place) :
    (disk.touched place?).read here path = .ok bytes := by
  have hsame := sameBut_touched disk place?
  cases place? with
  | none => exact h
  | some place =>
    by_cases hfound : (disk.get? place).isSome = true
    · rwa [touched, if_pos hfound]
    · refine (hsame.opensAlike ?_).read_eq_ok h
      rintro _ ⟨⟩ target htarget hfile
      obtain ⟨target', file, htarget', hentry, -⟩ := exists_file_of_read h
      obtain rfl := Except.ok.inj (htarget'.symm.trans htarget)
      have hnone := Option.not_isSome_iff_eq_none.mp hfound
      obtain hplace | ⟨hgroup, -⟩ := hfile
      · rw [hplace, hentry] at hnone
        cases hnone
      · exact hgroup (by rw [groupAt, hnone])

end Agenda.Disk
