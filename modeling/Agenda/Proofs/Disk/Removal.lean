import Agenda.Proofs.Disk.Directory

/-!
# Files that are removed

Nothing is passed through on the way along a path but directories and links. Where a file goes, or a
link to one, a way that ended there ends at nothing, and every other way is as before
(`walk_erase`). So what can be told about a path is told as before, or it is told now that nothing
is there (`Pruned`), and the reasons for which nothing can be told stay the same.
-/

namespace Agenda.Disk

variable {disk : Disk} {here place p : Place} {path name : Text} {reason : Reason}

/-! ### Looking at the end of a path -/

/-- A reason, unless it is that nothing is there. -/
def Reason.stray? (reason : Reason) : Option Reason := if reason.isAbsence then none else some reason

/-- The reason for which it cannot be told what is at the end of a path. -/
def stray? (disk : Disk) (here : Place) (path : Text) : Option Reason :=
  match disk.look here path with
  | .ok _ => none
  | .error reason => reason.stray?

/-- What keeps from telling what is at the end of a way. -/
def strayAt (disk : Disk) : Except Reason Place → Option Reason
  | .error reason => reason.stray?
  | .ok place =>
    match disk.get? place with
    | none | some (.link _) => none
    | some _ => (disk.limits.refuses .look place).bind Reason.stray?

theorem finds_eq_error_iff {kind : Entry → Bool} :
    disk.finds kind here path = .error reason ↔ disk.stray? here path = some reason := by
  rw [finds, stray?]
  cases disk.look here path with
  | ok entry => simp
  | error other => cases hother : other.isAbsence <;> simp [Reason.stray?, hother]

theorem finds_eq_true_iff {kind : Entry → Bool} :
    disk.finds kind here path = .ok true ↔ ∃ entry, disk.look here path = .ok entry ∧ kind entry := by
  rw [finds]
  cases disk.look here path with
  | ok entry => simp
  | error other => cases hother : other.isAbsence <;> simp [hother]

/-- Something is seen at the end of a path where the path leads to it and nothing is against
looking. -/
theorem look_eq_ok_iff {entry : Entry} :
    disk.look here path = .ok entry ↔
      ∃ target, disk.follow here path = .ok target ∧ disk.get? target.place = some entry ∧
        (∀ other, entry ≠ .link other) ∧ disk.limits.refuses .look target.place = none ∧
        (target.slash = true → entry.isDirectory = true) := by
  rw [look]
  cases disk.follow here path with
  | error reason => simp
  | ok target =>
    simp only [Except.ok.injEq, exists_eq_left']
    cases hfound : disk.get? target.place with
    | none => simp
    | some found =>
      cases found with
      | link other =>
        refine iff_of_false nofun ?_
        rintro ⟨heq, hlink, -⟩
        exact hlink other (Option.some.inj heq).symm
      | directory mode =>
        cases disk.limits.refuses .look target.place <;> simp [Entry.isDirectory]
        rintro rfl
        exact ⟨nofun, fun _ => rfl⟩
      | file file =>
        cases disk.limits.refuses .look target.place <;> cases target.slash <;>
          simp [Entry.isDirectory]
        all_goals rintro rfl; simp

/-- What can be told about a path hangs on the way along its names alone, if it is a path at all. -/
theorem stray?_of_walk {other : Disk}
    (h : ∀ start names, other.strayAt (other.walk true linkLimit start names) =
      disk.strayAt (disk.walk true linkLimit start names)) (here : Place) (path : Text) :
    other.stray? here path = disk.stray? here path := by
  have hwalk (disk : Disk) : disk.stray? here path =
      if path.isEmpty then none
      else if pathLimit ≤ (Text.toBytes path).size then some .nameTooLong
      else disk.strayAt (disk.walk true linkLimit
        (if Text.startsWith "/" path then [] else here) (namesOf path)) := by
    by_cases hempty : path.isEmpty = true
    · simp only [stray?, look, follow, trace, if_pos hempty]
      rfl
    by_cases hlong : pathLimit ≤ (Text.toBytes path).size
    · simp only [stray?, look, follow, trace, if_neg hempty, if_pos hlong]
      rfl
    simp only [stray?, look, follow, trace, if_neg hempty, if_neg hlong, Bool.true_or]
    cases disk.walk true linkLimit (if Text.startsWith "/" path then [] else here) (namesOf path) with
    | error reason => rfl
    | ok place =>
      simp only [Except.map, strayAt]
      cases disk.get? place with
      | none => rfl
      | some entry =>
        cases entry with
        | link other => rfl
        | _ =>
          cases disk.limits.refuses .look place with
          | some reason => rfl
          | none => cases Text.endsWith "/" path <;> rfl
  rw [hwalk, hwalk, h]

/-! ### Ways that end at a file -/

theorem get?_erase (hplace : place ≠ []) (p : Place) :
    (disk.erase place).get? p = if p = place then none else disk.get? p := by
  by_cases hroot : p = []
  · subst hroot
    rw [if_neg fun h => hplace h.symm]
    rfl
  · have hempty : p.isEmpty = false := List.isEmpty_eq_false_iff.mpr hroot
    have hlookup : (disk.erase place).entries.lookup p = _ :=
      lookup_filter (fun p => decide (p ≠ place)) disk.entries p
    rw [get?, hempty, if_neg Bool.false_ne_true, hlookup, get?, hempty, if_neg Bool.false_ne_true]
    simp only [decide_eq_true_eq, ite_not]

theorem limits_erase (disk : Disk) (place : Place) : (disk.erase place).limits = disk.limits := rfl

/-- Whether a way ends at a file that is seen, or nowhere. -/
def EndsAtFile (disk : Disk) (way : Except Reason Place) : Prop :=
  (∃ reason, way = .error reason ∧ reason.isAbsence = true) ∨
    ∃ place file, way = .ok place ∧ disk.get? place = some (.file file) ∧
      disk.limits.refuses .look place = none

/-- Whether a way ends where nothing is. -/
def EndsNowhere (disk : Disk) (way : Except Reason Place) : Prop :=
  (∃ reason, way = .error reason ∧ reason.isAbsence = true) ∨
    ∃ place, way = .ok place ∧ disk.get? place = none

theorem EndsAtFile.strayAt_eq {way : Except Reason Place} (h : disk.EndsAtFile way) :
    disk.strayAt way = none := by
  obtain ⟨reason, rfl, habsence⟩ | ⟨place, file, rfl, hfile, hlook⟩ := h
  · rw [strayAt, Reason.stray?, if_pos habsence]
  · simp only [strayAt, hfile, hlook, Option.bind_none]

theorem EndsNowhere.strayAt_eq {way : Except Reason Place} (h : disk.EndsNowhere way) :
    disk.strayAt way = none := by
  obtain ⟨reason, rfl, habsence⟩ | ⟨place, rfl, hnone⟩ := h
  · rw [strayAt, Reason.stray?, if_pos habsence]
  · simp only [strayAt, hnone]

/-- Whether there is a file at a place that is seen, or a link to such a file. -/
def HoldsFile (disk : Disk) (place : Place) : Prop :=
  (∃ file, disk.get? place = some (.file file) ∧ disk.limits.refuses .look place = none) ∨
    ∃ path, disk.get? place = some (.link path) ∧ ∃ links reached file,
      disk.walk true links (if Text.startsWith "/" path then [] else place.dropLast) (namesOf path) =
        .ok reached ∧
      disk.get? reached = some (.file file) ∧ disk.limits.refuses .look reached = none

theorem HoldsFile.ne_nil (h : disk.HoldsFile place) : place ≠ [] := by
  rintro rfl
  obtain ⟨file, hfile, -⟩ | ⟨path, hlink, -⟩ := h
  · cases hfile
  · cases hlink

/-- Nothing goes on from where there is no directory. -/
theorem exists_barrier? (h : disk.isDirectory place = false) :
    ∃ reason, disk.barrier? place = some reason ∧ reason.isAbsence = true := by
  rw [isDirectory] at h
  rw [barrier?]
  cases hentry : disk.get? place with
  | none => exact ⟨_, rfl, rfl⟩
  | some entry =>
    rw [hentry] at h
    cases entry with
    | directory mode => cases h
    | file file => exact ⟨_, rfl, rfl⟩
    | link path => exact ⟨_, rfl, rfl⟩

theorem HoldsFile.isDirectory_eq (h : disk.HoldsFile place) : disk.isDirectory place = false := by
  rw [isDirectory]
  obtain ⟨file, hfile, -⟩ | ⟨path, hlink, -⟩ := h
  · rw [hfile]
    rfl
  · rw [hlink]
    rfl

/-- Whatever goes on behind a way to a file ends at that file, or nowhere. -/
theorem endsAtFile_walk_append {links : Nat} {start : Place} {names : List Text} {file : File}
    (h : disk.walk true links start names = .ok place) (hfile : disk.get? place = some (.file file))
    (hlook : disk.limits.refuses .look place = none) (more : List Text) (others : Nat) :
    disk.EndsAtFile (disk.walk true others start (names ++ more)) := by
  obtain hmany | ⟨left, hleft⟩ := walk_append h more others
  · rw [hmany]
    exact .inl ⟨_, rfl, rfl⟩
  · rw [hleft]
    cases more with
    | nil => exact .inr ⟨place, file, by cases left <;> rw [walk, walkWith], hfile, hlook⟩
    | cons name rest =>
      have hdirectory : disk.isDirectory place = false := by
        rw [isDirectory, hfile]
        rfl
      obtain ⟨reason, hbarrier, habsence⟩ := exists_barrier? hdirectory
      exact .inl ⟨reason, walk_cons_of_barrier? hbarrier true, habsence⟩

namespace HoldsFile

theorem get?_erase_self (h : disk.HoldsFile p) : (disk.erase p).get? p = none := by
  rw [get?_erase h.ne_nil, if_pos rfl]

theorem get?_erase_of_ne (h : disk.HoldsFile p) {q : Place} (hq : q ≠ p) :
    (disk.erase p).get? q = disk.get? q := by
  rw [get?_erase h.ne_nil, if_neg hq]

theorem barrier?_erase_self (h : disk.HoldsFile p) :
    (disk.erase p).barrier? p = some .missing := by
  rw [barrier?, h.get?_erase_self]

theorem barrier?_erase_of_ne (h : disk.HoldsFile p) {q : Place} (hq : q ≠ p) :
    (disk.erase p).barrier? q = disk.barrier? q := by
  rw [barrier?, h.get?_erase_of_ne hq, limits_erase, ← barrier?]

/-- What can be passed is no file, and can still be passed when the file is gone. -/
theorem barrier?_erase_of_none (h : disk.HoldsFile p) {q : Place}
    (hq : disk.barrier? q = none) : (disk.erase p).barrier? q = none := by
  have hne : q ≠ p := by
    rintro rfl
    obtain ⟨reason, hreason, -⟩ := exists_barrier? h.isDirectory_eq
    cases hq.symm.trans hreason
  rw [h.barrier?_erase_of_ne hne, hq]

end HoldsFile

/-- Where a file goes, or a link to a file, a way leads where it led, or it ended there and ends
nowhere now. -/
theorem walkWith_erase (hholds : disk.HoldsFile p)
    {jump jump' : Place → List Text → Except Reason Place}
    (hjump : ∀ start names, jump' start names = jump start names ∨
      (disk.erase p).EndsNowhere (jump' start names) ∧ disk.EndsAtFile (jump start names))
    (hlink : ∀ path more, disk.get? p = some (.link path) →
      disk.EndsAtFile (jump (if Text.startsWith "/" path then [] else p.dropLast)
        (namesOf path ++ more)))
    (start : Place) (names : List Text) :
    (disk.erase p).walkWith true jump' start names = disk.walkWith true jump start names ∨
      (disk.erase p).EndsNowhere ((disk.erase p).walkWith true jump' start names) ∧
        disk.EndsAtFile (disk.walkWith true jump start names) := by
  -- The induction is on the way before. It differs from the way afterwards only at the place itself.
  fun_induction disk.walkWith true jump start names with
  | case1 start => exact .inl (by rw [walkWith])
  | case2 start name rest reason hstart =>
    by_cases hstays : start = p
    · subst hstays
      obtain ⟨_, hreason, habsence⟩ := exists_barrier? hholds.isDirectory_eq
      obtain rfl := Option.some.inj (hstart.symm.trans hreason)
      refine .inr ⟨.inl ⟨.missing, ?_, rfl⟩, .inl ⟨_, rfl, habsence⟩⟩
      rw [walkWith, hholds.barrier?_erase_self]
    · rw [walkWith, hholds.barrier?_erase_of_ne hstays, hstart]
      exact .inl rfl
  | case3 start name rest hstart hlong =>
    rw [walkWith, hholds.barrier?_erase_of_none hstart]
    simp only [if_pos hlong, true_or]
  | case4 start rest hstart hshort ih =>
    rw [walkWith, hholds.barrier?_erase_of_none hstart]
    simpa only [if_neg hshort, if_true] using ih
  | case5 start rest hstart hshort hdot ih =>
    rw [walkWith, hholds.barrier?_erase_of_none hstart]
    simpa only [if_neg hshort, if_neg hdot, if_true] using ih
  | case6 start name rest hstart hshort hdot hdots path hlast hnext =>
    rw [walkWith, hholds.barrier?_erase_of_none hstart]
    simp only [if_neg hshort, if_neg hdot, if_neg hdots]
    by_cases hp : start ++ [name] = p
    · -- The link is the one that goes.
      subst hp
      have hends := hlink path rest hnext
      rw [List.dropLast_concat] at hends
      rw [hholds.get?_erase_self]
      refine .inr ⟨?_, hends⟩
      cases rest with
      | nil => exact .inr ⟨_, by rw [walkWith], hholds.get?_erase_self⟩
      | cons next more =>
        exact .inl ⟨.missing, by rw [walkWith, hholds.barrier?_erase_self], rfl⟩
    · rw [hholds.get?_erase_of_ne hp, hnext]
      simp only [Bool.not_true, Bool.and_false]
      exact hjump _ _
  | case7 start name rest hstart hshort hdot hdots hnext ih =>
    rw [walkWith, hholds.barrier?_erase_of_none hstart]
    simp only [if_neg hshort, if_neg hdot, if_neg hdots]
    split
    · rename_i path hpath _
      have hp : start ++ [name] ≠ p := by
        intro heq
        rw [heq, hholds.get?_erase_self] at hpath
        cases hpath
      rw [hholds.get?_erase_of_ne hp] at hpath
      exact absurd (by rw [Bool.not_true, Bool.and_false]) (hnext path hpath)
    · exact ih

theorem walk_erase (hholds : disk.HoldsFile p) (links : Nat) (start : Place) (names : List Text) :
    (disk.erase p).walk true links start names = disk.walk true links start names ∨
      (disk.erase p).EndsNowhere ((disk.erase p).walk true links start names) ∧
        disk.EndsAtFile (disk.walk true links start names) := by
  induction links generalizing start names with
  | zero =>
    exact walkWith_erase hholds (fun _ _ => .inl rfl) (fun _ _ _ => .inl ⟨_, rfl, rfl⟩) start names
  | succ links ih =>
    refine walkWith_erase hholds ih (fun path more hpath => ?_) start names
    obtain ⟨file, hfile, -⟩ | ⟨path', hlink, _, reached, file, hwalk, hfile, hlook⟩ := hholds
    · cases hfile.symm.trans hpath
    · obtain rfl := Entry.link.inj (Option.some.inj (hlink.symm.trans hpath))
      exact endsAtFile_walk_append hwalk hfile hlook more links

/-! ### What is told about paths -/

/-- Whether a disk is another one from which files may have been removed, or written to, as far as
paths are followed from a directory. -/
structure Pruned (here : Place) (before after : Disk) : Prop where
  limits : after.limits = before.limits
  stray : ∀ path, after.stray? here path = before.stray? here path
  found : ∀ path, after.finds Entry.isFile here path = .ok true →
    before.finds Entry.isFile here path = .ok true
  leads : ∀ path place, before.LeadsInto here path place → after.LeadsInto here path place
  gone : ∀ p, before.get? p = none → after.get? p = none
  files : ∀ p file, before.get? p = some (.file file) →
    after.get? p = none ∨ ∃ file', after.get? p = some (.file file')
  same : ∀ p q, after.SameFile p q → before.SameFile p q

namespace Pruned

theorem refl (here : Place) (disk : Disk) : Pruned here disk disk :=
  ⟨rfl, fun _ => rfl, fun _ => id, fun _ _ => id, fun _ => id, fun _ file h => .inr ⟨file, h⟩,
    fun _ _ => id⟩

theorem trans {first second third : Disk} (h : Pruned here first second)
    (h' : Pruned here second third) : Pruned here first third where
  limits := h'.limits.trans h.limits
  stray path := (h'.stray path).trans (h.stray path)
  found path := h.found path ∘ h'.found path
  leads path place := h'.leads path place ∘ h.leads path place
  gone p := h'.gone p ∘ h.gone p
  files p file hfile := by
    obtain hnone | ⟨file', hfile'⟩ := h.files p file hfile
    · exact .inl (h'.gone p hnone)
    · exact h'.files p file' hfile'
  same p q := h.same p q ∘ h'.same p q

end Pruned

theorem finds_isFile_iff :
    disk.finds Entry.isFile here path = .ok true ↔
      ∃ place file, disk.follow here path = .ok ⟨place, false⟩ ∧
        disk.get? place = some (.file file) ∧ disk.limits.refuses .look place = none := by
  simp only [finds_eq_true_iff, look_eq_ok_iff]
  constructor
  · rintro ⟨entry, ⟨⟨place, slash⟩, hfollow, hentry, -, hlook, hslash⟩, hfile⟩
    cases entry with
    | directory mode => cases hfile
    | link other => cases hfile
    | file file =>
      cases slash with
      | true => cases hslash rfl
      | false => exact ⟨place, file, hfollow, hentry, hlook⟩
  · rintro ⟨place, file, hfollow, hfile, hlook⟩
    exact ⟨_, ⟨_, hfollow, hfile, nofun, hlook, nofun⟩, rfl⟩

namespace HoldsFile

variable (hholds : disk.HoldsFile p)
include hholds

theorem stray?_erase (here : Place) (path : Text) :
    (disk.erase p).stray? here path = disk.stray? here path := by
  refine stray?_of_walk (fun start names => ?_) here path
  obtain heq | ⟨hafter, hbefore⟩ := walk_erase hholds linkLimit start names
  · rw [heq]
    cases disk.walk true linkLimit start names with
    | error reason => rfl
    | ok place =>
      by_cases hplace : place = p
      · subst hplace
        simp only [strayAt, hholds.get?_erase_self]
        obtain ⟨file, hfile, hlook⟩ | ⟨path, hlink, -⟩ := hholds
        · rw [hfile, hlook]
          rfl
        · rw [hlink]
      · simp only [strayAt, hholds.get?_erase_of_ne hplace, limits_erase]
  · rw [hafter.strayAt_eq, hbefore.strayAt_eq]

/-- What is a file afterwards was one before. -/
theorem finds_of_finds_erase {path : Text}
    (h : (disk.erase p).finds Entry.isFile here path = .ok true) :
    disk.finds Entry.isFile here path = .ok true := by
  obtain ⟨place, file, hfollow, hfile, hlook⟩ := finds_isFile_iff.mp h
  obtain ⟨hempty, hshort, hwalk, hslash⟩ := trace_eq_ok_iff.mp hfollow
  have hne : place ≠ p := by
    rintro rfl
    cases hholds.get?_erase_self.symm.trans hfile
  refine finds_isFile_iff.mpr
    ⟨place, file, ?_, (hholds.get?_erase_of_ne hne).symm.trans hfile, hlook⟩
  rw [Bool.true_or] at hwalk
  obtain heq | ⟨hafter, -⟩ := walk_erase hholds linkLimit
    (if Text.startsWith "/" path then [] else here) (namesOf path)
  · rw [heq] at hwalk
    exact trace_eq_ok_iff.mpr ⟨hempty, hshort, hwalk, hslash⟩
  · rw [hwalk] at hafter
    obtain ⟨reason, h, -⟩ | ⟨other, h, hnone⟩ := hafter
    · cases h
    · obtain rfl := Except.ok.inj h
      cases hfile.symm.trans hnone

/-- A path leads into a directory as before. -/
theorem leadsInto_erase {path : Text} {place : Place} (h : disk.LeadsInto here path place) :
    (disk.erase p).LeadsInto here path place := by
  obtain ⟨slash, hfollow⟩ := h.follow
  obtain ⟨hempty, hshort, hwalk, hslash⟩ := trace_eq_ok_iff.mp hfollow
  have hne : place ≠ p := by
    rintro rfl
    cases h.directory.symm.trans hholds.isDirectory_eq
  refine ⟨⟨slash, trace_eq_ok_iff.mpr ⟨hempty, hshort, ?_, hslash⟩⟩, ?_⟩
  · rw [Bool.true_or] at hwalk ⊢
    obtain heq | ⟨-, hbefore⟩ := walk_erase hholds linkLimit
      (if Text.startsWith "/" path then [] else here) (namesOf path)
    · rw [heq, hwalk]
    · rw [hwalk] at hbefore
      obtain ⟨reason, hend, -⟩ | ⟨other, file, hend, hfile, -⟩ := hbefore
      · cases hend
      · obtain rfl := Except.ok.inj hend
        have hdirectory := h.directory
        rw [isDirectory, hfile] at hdirectory
        cases hdirectory
  · rw [isDirectory, hholds.get?_erase_of_ne hne]
    exact h.directory

theorem sameFile_of_erase {q r : Place} (h : (disk.erase p).SameFile q r) :
    disk.SameFile q r := by
  have hgroup (q : Place) (h : (disk.erase p).groupAt q ≠ none) :
      (disk.erase p).groupAt q = disk.groupAt q := by
    by_cases hq : q = p
    · rw [groupAt, hq, hholds.get?_erase_self] at h
      exact absurd rfl h
    · rw [groupAt, hholds.get?_erase_of_ne hq, ← groupAt]
  obtain rfl | ⟨hne, heq⟩ := h
  · exact .inl rfl
  · have hq := hgroup q hne
    have hr := hgroup r (heq ▸ hne)
    rw [hq] at hne heq
    exact .inr ⟨hne, hr.symm.trans heq⟩

/-- Where a file is removed, or a link to one, nothing else is told otherwise. -/
theorem pruned_erase (here : Place) : Pruned here disk (disk.erase p) where
  limits := rfl
  stray := hholds.stray?_erase here
  found _ := hholds.finds_of_finds_erase
  leads _ _ := hholds.leadsInto_erase
  gone q h := by rw [get?_erase hholds.ne_nil, h, ite_self]
  files q file h := by
    rw [get?_erase hholds.ne_nil, h]
    split
    · exact .inl rfl
    · exact .inr ⟨file, rfl⟩
  same _ _ := hholds.sameFile_of_erase

end HoldsFile

/-! ### Writing to a file that is there -/

section

variable {before after : Disk} {file : File} (h : WrittenAt place before after)
  (hfile : before.get? place = some (.file file))
include h hfile

theorem WrittenAt.isFile_of_sameFile (hsame : before.SameFile place p) :
    ∃ old new, before.get? p = some (.file old) ∧ after.get? p = some (.file new) := by
  obtain ⟨new, hnew, -⟩ := h.names p hsame
  obtain rfl | ⟨hgroup, heq⟩ := hsame
  · exact ⟨file, new, hfile, hnew⟩
  · obtain ⟨old, hold, -⟩ := exists_file_of_groupAt (heq ▸ hgroup)
    exact ⟨old, new, hold, hnew⟩

theorem WrittenAt.barrier?_eq (p : Place) : after.barrier? p = before.barrier? p := by
  rw [barrier?, barrier?, h.limits]
  by_cases hsame : before.SameFile place p
  · obtain ⟨old, new, hold, hnew⟩ := h.isFile_of_sameFile hfile hsame
    rw [hold, hnew]
  · rw [h.others p hsame]

theorem WrittenAt.walkWith_eq {through : Bool} {jump jump' : Place → List Text → Except Reason Place}
    (hjump : ∀ start names, jump' start names = jump start names) (start : Place)
    (names : List Text) :
    after.walkWith through jump' start names = before.walkWith through jump start names := by
  have hlink (p : Place) (path : Text) :
      after.get? p = some (.link path) ↔ before.get? p = some (.link path) :=
    h.get?_eq_some_iff (by simp) p
  fun_induction before.walkWith through jump start names with
  | case1 start => rw [walkWith]
  | case2 start name rest reason hstart => rw [walkWith, h.barrier?_eq hfile, hstart]
  | case3 start name rest hstart hlong =>
    rw [walkWith, h.barrier?_eq hfile, hstart]
    simp only [if_pos hlong]
  | case4 start rest hstart hshort ih =>
    rw [walkWith, h.barrier?_eq hfile, hstart]
    simpa only [if_neg hshort, if_true] using ih
  | case5 start rest hstart hshort hdot ih =>
    rw [walkWith, h.barrier?_eq hfile, hstart]
    simpa only [if_neg hshort, if_neg hdot, if_true] using ih
  | case6 start name rest hstart hshort hdot hdots path hlast hnext =>
    rw [walkWith, h.barrier?_eq hfile, hstart]
    simp only [if_neg hshort, if_neg hdot, if_neg hdots, (hlink _ _).mpr hnext, hlast, hjump]
  | case7 start name rest hstart hshort hdot hdots hnext ih =>
    rw [walkWith, h.barrier?_eq hfile, hstart]
    simp only [if_neg hshort, if_neg hdot, if_neg hdots]
    split
    · rename_i path hpath hlast
      exact absurd hlast (hnext path ((hlink _ _).mp hpath))
    · exact ih

theorem WrittenAt.walk_eq (through : Bool) (links : Nat) (start : Place) (names : List Text) :
    after.walk through links start names = before.walk through links start names := by
  induction links generalizing start names with
  | zero => exact h.walkWith_eq hfile (fun _ _ => rfl) start names
  | succ links ih => exact h.walkWith_eq hfile ih start names

theorem WrittenAt.trace_eq (through : Bool) (here : Place) (path : Text) :
    after.trace through here path = before.trace through here path := by
  simp only [trace, h.walk_eq hfile]

/-- Where something is written to a file that is there, nothing is told otherwise about paths. -/
theorem WrittenAt.pruned (here : Place) : Pruned here before after where
  limits := h.limits
  stray := by
    refine stray?_of_walk (fun start names => ?_) here
    rw [h.walk_eq hfile]
    cases before.walk true linkLimit start names with
    | error reason => rfl
    | ok p =>
      simp only [strayAt, h.limits]
      by_cases hsame : before.SameFile place p
      · obtain ⟨old, new, hold, hnew⟩ := h.isFile_of_sameFile hfile hsame
        rw [hold, hnew]
      · rw [h.others p hsame]
  found path hfound := by
    obtain ⟨p, new, hfollow, hnew, hlook⟩ := finds_isFile_iff.mp hfound
    rw [follow, h.trace_eq hfile, ← follow] at hfollow
    rw [h.limits] at hlook
    by_cases hsame : before.SameFile place p
    · obtain ⟨old, -, hold, -⟩ := h.isFile_of_sameFile hfile hsame
      exact finds_isFile_iff.mpr ⟨p, old, hfollow, hold, hlook⟩
    · rw [h.others p hsame] at hnew
      exact finds_isFile_iff.mpr ⟨p, new, hfollow, hnew, hlook⟩
  leads path p hleads := by
    have hsame : SameBut (some place) before after := .inr ⟨place, rfl, h⟩
    exact hsame.leadsInto hleads
  gone p hp := by
    refine (h.others p fun hsame => ?_).trans hp
    obtain ⟨old, -, hold, -⟩ := h.isFile_of_sameFile hfile hsame
    cases hp.symm.trans hold
  files p file' hp := by
    by_cases hsame : before.SameFile place p
    · obtain ⟨-, new, -, hnew⟩ := h.isFile_of_sameFile hfile hsame
      exact .inr ⟨new, hnew⟩
    · exact .inr ⟨file', (h.others p hsame).trans hp⟩
  same p q := (h.sameFile_iff p q).mp

end

/-! ### Files in a directory -/

theorem isPlainName_of_isName (h : isName name = true) : IsPlainName name := by
  obtain ⟨hne, hdot, hdots, hslash, -, hsize⟩ := of_decide_eq_true h
  exact ⟨hslash, hne, hdot, hdots, hsize⟩

variable {directory : Path}

/-- A file that is found in a directory is there, or it is behind a link that is there. -/
theorem LeadsInto.holdsFile_child (hleads : disk.LeadsInto here directory.text place)
    (hname : IsPlainName name)
    (h : disk.finds Entry.isFile here (directory.child name).text = .ok true) :
    disk.HoldsFile (place ++ [name]) := by
  obtain ⟨reached, file, hfollow, hfile, hlook⟩ := finds_isFile_iff.mp h
  obtain ⟨links, hchild⟩ := hleads.trace_child hname true
  rw [Disk.follow, hchild] at hfollow
  split at hfollow
  · cases hfollow
  have hwalk : disk.walk true links place [name] = .ok reached := by
    cases hway : disk.walk true links place [name] with
    | error reason => rw [hway] at hfollow; cases hfollow
    | ok found =>
      rw [hway] at hfollow
      rw [(Target.mk.inj (Except.ok.inj hfollow)).1]
  by_cases hlink : ∃ path, disk.get? (place ++ [name]) = some (.link path)
  · obtain ⟨path, hlink⟩ := hlink
    obtain ⟨-, -, hdot, hdots, hsize⟩ := hname
    -- The last step of the way is the jump from the link.
    have hjumps {jump : Place → List Text → Except Reason Place}
        (hway : disk.walkWith true jump place [name] = .ok reached) :
        jump (if Text.startsWith "/" path then [] else place) (namesOf path) = .ok reached := by
      rw [walkWith, show disk.barrier? place = none from barrier?_of_walk_cons hwalk] at hway
      simpa only [if_neg hsize.not_gt, if_neg hdot, if_neg hdots, hlink, Bool.not_true,
        Bool.and_false, List.append_nil] using hway
    cases links with
    | zero => cases hjumps hwalk
    | succ links =>
      refine .inr ⟨path, hlink, links, reached, file, ?_, hfile, hlook⟩
      rw [List.dropLast_concat]
      exact hjumps hwalk
  · have hplain := walk_name hname (barrier?_of_walk_cons hwalk) (not_exists.mp hlink) links
    obtain rfl := Except.ok.inj (hplain.symm.trans hwalk)
    exact .inl ⟨file, hfile, hlook⟩

/-- What is found in a directory can be removed there, unless that is refused. -/
theorem LeadsInto.unlink_child (hleads : disk.LeadsInto here directory.text place)
    (hname : IsPlainName name)
    (h : disk.finds Entry.isFile here (directory.child name).text = .ok true) :
    disk.unlink here (directory.child name).text =
      match disk.limits.refuses .remove (place ++ [name]) with
      | some reason => .error ⟨reason, (directory.child name).text⟩
      | none => .ok (disk.erase (place ++ [name])) := by
  have hholds := hleads.holdsFile_child hname h
  obtain ⟨reached, file, hfollow, -⟩ := finds_isFile_iff.mp h
  -- The way is open, for the file was found behind it.
  obtain ⟨-, hshort, -⟩ := trace_eq_ok_iff.mp hfollow
  obtain ⟨links, hchild⟩ := hleads.trace_child hname true
  rw [Disk.follow, hchild, if_neg hshort.not_ge] at hfollow
  have hopen : disk.barrier? place = none := by
    cases hway : disk.walk true links place [name] with
    | error reason => rw [hway] at hfollow; cases hfollow
    | ok found => exact barrier?_of_walk_cons hway
  obtain ⟨links, hchild⟩ := hleads.trace_child hname false
  have hway : disk.walk false links place [name] = .ok (place ++ [name]) := by
    obtain ⟨-, -, hdot, hdots, hsize⟩ := hname
    cases links <;>
    · rw [walk, walkWith, hopen]
      simp only [if_neg hsize.not_gt, if_neg hdot, if_neg hdots, List.isEmpty_nil, Bool.not_false,
        Bool.and_true]
      split
      · cases ‹true = false›
      · rw [walkWith]
  rw [unlink, hchild, if_neg hshort.not_ge, hway]
  simp only [Except.map]
  obtain ⟨file, hfile, -⟩ | ⟨path, hlink, -⟩ := hholds
  · rw [hfile]
    cases disk.limits.refuses .remove (place ++ [name]) <;> rfl
  · rw [hlink]
    cases disk.limits.refuses .remove (place ++ [name]) <;> rfl

/-- A file in a directory is found there if nothing is against it. -/
theorem LeadsInto.finds_child_iff (hleads : disk.LeadsInto here directory.text place)
    (hname : IsPlainName name) {file : File} (hfile : disk.get? (place ++ [name]) = some (.file file)) :
    disk.finds Entry.isFile here (directory.child name).text = .ok true ↔
      (Text.toBytes (directory.child name).text).size < pathLimit ∧
        disk.limits.refuses .search place = none ∧
        disk.limits.refuses .look (place ++ [name]) = none := by
  have hlink (path : Text) : disk.get? (place ++ [name]) ≠ some (.link path) := by
    rw [hfile]
    exact nofun
  have hdirectory : ∃ mode, disk.get? place = some (.directory mode) := by
    have h := hleads.directory
    rw [isDirectory] at h
    cases hentry : disk.get? place with
    | none => rw [hentry] at h; cases h
    | some entry =>
      rw [hentry] at h
      cases entry with
      | directory mode => exact ⟨mode, rfl⟩
      | file file => cases h
      | link path => cases h
  obtain ⟨links, hchild⟩ := hleads.trace_child hname true
  rw [finds_isFile_iff, Disk.follow, hchild]
  constructor
  · rintro ⟨reached, found, hfollow, -, hlook⟩
    split at hfollow
    · cases hfollow
    rename_i hshort
    cases hway : disk.walk true links place [name] with
    | error reason => rw [hway] at hfollow; cases hfollow
    | ok other =>
      rw [hway] at hfollow
      obtain rfl := (Target.mk.inj (Except.ok.inj hfollow)).1
      have hopen := barrier?_of_walk_cons hway
      obtain rfl := Except.ok.inj ((walk_name hname hopen hlink links).symm.trans hway)
      exact ⟨not_le.mp hshort, (barrier?_eq_none_iff.mp hopen).2, hlook⟩
  · rintro ⟨hshort, hsearch, hlook⟩
    have hopen : disk.barrier? place = none := barrier?_eq_none_iff.mpr ⟨hdirectory, hsearch⟩
    refine ⟨place ++ [name], file, ?_, hfile, hlook⟩
    rw [if_neg hshort.not_ge, walk_name hname hopen hlink links]
    rfl

end Agenda.Disk
