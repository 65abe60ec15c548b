import Agenda.Proofs.Text.Substitute
import Agenda.Proofs.World.Notes
import Agenda.Typeset.Basic

/-!
# What is removed beside a source

When the work beside a source is over, the names in its directory are read, and those that the stem
of the source, taken for a pattern, accepts with a dot and anything behind are taken one after the
other. What is a file goes. All this is told from the disk as it was before, for a file that goes
changes nothing about the others (`sweepBeside_spec`): there is no trouble if nothing stands against
it there (`Quiet`), and the files that are come to go (`Removed`). A stem without the signs of a
pattern accepts what starts with the stem and a dot (`Disk.Glob.accepts_parse_of_isPlain`).
-/

namespace Agenda

/-! ### Patterns of a stem -/

namespace Disk.Glob

/-- Whether a character stands for itself in a pattern. -/
def IsPlain (c : Char) : Prop := c ≠ '*' ∧ c ≠ '?' ∧ c ≠ '['

instance : DecidablePred IsPlain := fun _ => inferInstanceAs (Decidable (_ ∧ _ ∧ _))

theorem parseFrom_cons_of_isPlain {c : Char} (h : IsPlain c) (rest : Text) :
    parseFrom 0 (c :: rest) = literal c :: parseFrom 0 rest := by
  obtain ⟨hstar, hone, hbracket⟩ := h
  rw [parseFrom]
  · exact hstar
  · exact hone
  · exact hbracket

theorem parseFrom_append_of_isPlain {s : Text} (h : ∀ c ∈ s, IsPlain c) (rest : Text) :
    parseFrom 0 (s ++ rest) = s.map literal ++ parseFrom 0 rest := by
  induction s with
  | nil => rfl
  | cons c s ih =>
    rw [List.cons_append, parseFrom_cons_of_isPlain (h c List.mem_cons_self),
      ih fun other hother => h other (.tail _ hother)]
    rfl

/-- Literals take their text off the front of a name. -/
theorem accepts_map_literal_append (s : Text) (rest : List Glob) (name : Text) :
    accepts (s.map literal ++ rest) name = true ↔
      ∃ behind, name = s ++ behind ∧ accepts rest behind = true := by
  induction s generalizing name with
  | nil => simp
  | cons c s ih =>
    cases name with
    | nil => simp [accepts]
    | cons d name =>
      simp only [List.map_cons, List.cons_append, accepts, Bool.and_eq_true, beq_iff_eq, ih,
        List.cons.injEq]
      constructor
      · rintro ⟨rfl, behind, rfl, hrest⟩
        exact ⟨behind, ⟨rfl, rfl⟩, hrest⟩
      · rintro ⟨behind, ⟨rfl, rfl⟩, hrest⟩
        exact ⟨rfl, behind, rfl, hrest⟩

theorem accepts_star (name : Text) : accepts [star] name = true := by
  have hmem : [] ∈ suffixes (name ++ []) := mem_suffixes_append name []
  rw [List.append_nil] at hmem
  exact List.any_eq_true.mpr ⟨[], hmem, rfl⟩

/-- Behind a stem without signs of a pattern, a dot and a star accept what starts with the stem and
a dot. -/
theorem accepts_parse_of_isPlain {stem : Text} (h : ∀ c ∈ stem, IsPlain c) (name : Text) :
    accepts (parse (stem ++ ".*")) name = true ↔ (stem ++ "." : Text) <+: name := by
  have hparse : parse (stem ++ ".*") = (stem ++ ".").map literal ++ [star] := by
    rw [parse, parseFrom_append_of_isPlain h, List.map_append, List.append_assoc]
    rfl
  rw [hparse, accepts_map_literal_append]
  constructor
  · rintro ⟨behind, rfl, -⟩
    exact List.prefix_append ..
  · rintro ⟨behind, rfl⟩
    exact ⟨behind, rfl, accepts_star behind⟩

theorem parse?_of_isPlain {stem : Text} (h : ∀ c ∈ stem, IsPlain c) :
    parse? (stem ++ ".*") = some (parse (stem ++ ".*")) := by
  have hnot : ¬ Text.occursIn "**" (stem ++ ".*") = true := by
    rw [Text.occursIn_iff]
    intro hinfix
    have hcount := hinfix.sublist.count_le '*'
    have hstem : stem.count '*' = 0 := List.count_eq_zero.mpr fun hmem => (h _ hmem).1 rfl
    rw [List.count_append, hstem] at hcount
    exact absurd hcount (by decide)
  rw [parse?, if_neg hnot]

end Disk.Glob

namespace Typeset

variable {source : Disk.Path} {world : World} {here place p : Place} {left : Disk} {name : Text}
  {names : List Text}

def beside (source : Disk.Path) (name : Text) : Text := (source.parent.child name).text

/-! ### One name after the other -/

/-- Whether what is at a place is removed when some names are taken one after the other: it has one
of them, it is found to be a file, that is not refused, and nothing stands against those before it.
-/
structure RemovedIn (left : Disk) (here : Place) (source : Disk.Path) (place : Place)
    (names : List Text) (p : Place) : Prop where
  reached : ∃ name before behind, names = before ++ name :: behind ∧ p = place ++ [name] ∧
    left.finds Entry.isFile here (beside source name) = .ok true ∧
    ∀ other ∈ before, left.stray? here (beside source other) = none
  removable : left.limits.refuses .remove p = none

/-- Whether a world is another one in which files have been removed that were at some of the places.
-/
structure CutFrom (before after : World) (removed : Place → Prop) : Prop where
  here : after.here = before.here
  log : after.logPlace? = before.logPlace?
  pruned : Disk.Pruned before.here before.disk after.disk
  gone : ∀ p file, removed p → before.disk.get? p = some (.file file) → after.disk.get? p = none
  kept : ∀ p, ¬ removed p → (∀ l, before.logPlace? = some l → ¬ before.disk.SameFile l p) →
    after.disk.get? p = before.disk.get? p

theorem CutFrom.refl (world : World) {removed : Place → Prop} (h : ∀ p, ¬ removed p) :
    CutFrom world world removed :=
  ⟨rfl, rfl, .refl world.here world.disk, fun p _ hp => absurd hp (h p), fun _ _ _ => rfl⟩

theorem CutFrom.congr {before after : World} {removed removed' : Place → Prop}
    (h : CutFrom before after removed) (hiff : ∀ p, removed' p ↔ removed p) :
    CutFrom before after removed' where
  here := h.here
  log := h.log
  pruned := h.pruned
  gone p file hp := h.gone p file ((hiff p).mp hp)
  kept p hp := h.kept p (mt (hiff p).mpr hp)

/-- Files are removed first at some places and then at others. What is to go in the end is told from
the start: `later` says it of the disk at the start, and `second` of the one in between. -/
theorem CutFrom.trans {before next after : World} {first second later : Place → Prop}
    (h : CutFrom before next first) (h' : CutFrom next after second)
    (hsecond : ∀ p, second p → later p)
    (hlater : ∀ p file file', later p → before.disk.get? p = some (.file file) →
      next.disk.get? p = some (.file file') → second p) :
    CutFrom before after fun p => first p ∨ later p where
  here := h'.here.trans h.here
  log := h'.log.trans h.log
  pruned := h.pruned.trans (h.here ▸ h'.pruned)
  gone p file hp hfile := by
    obtain hfirst | hp := hp
    · exact h'.pruned.gone p (h.gone p file hfirst hfile)
    · obtain hnone | ⟨file', hfile'⟩ := h.pruned.files p file hfile
      · exact h'.pruned.gone p hnone
      · exact h'.gone p file' (hlater p file file' hp hfile hfile') hfile'
  kept p hp hlog := by
    obtain ⟨hfirst, hlast⟩ := not_or.mp hp
    refine (h'.kept p (mt (hsecond p) hlast) fun l hl hsame => ?_).trans (h.kept p hfirst hlog)
    exact hlog l (h.log ▸ hl) (h.pruned.same l p hsame)

theorem not_removedIn_nil : ¬ RemovedIn left here source place [] p := by
  rintro ⟨⟨name, before, behind, h, -⟩, -⟩
  exact List.append_ne_nil_of_right_ne_nil before (List.cons_ne_nil name behind) h.symm

/-- Where something is in the way of the first name, nothing is come to. -/
theorem not_removedIn_of_stray {reason : Disk.Reason}
    (h : left.stray? here (beside source name) = some reason) :
    ¬ RemovedIn left here source place (name :: names) p := by
  rintro ⟨⟨other, before, behind, heq, -, hfound, hclear⟩, -⟩
  cases before with
  | nil =>
    obtain ⟨rfl, -⟩ := List.cons.inj heq
    rw [Disk.finds_eq_error_iff.mpr h] at hfound
    cases hfound
  | cons first before =>
    obtain ⟨rfl, -⟩ := List.cons.inj heq
    cases (hclear _ List.mem_cons_self).symm.trans h

/-- Where nothing is in the way of the first name, it is taken, and then the others are. -/
theorem removedIn_cons_iff (h : left.stray? here (beside source name) = none) :
    RemovedIn left here source place (name :: names) p ↔
      (p = place ++ [name] ∧ left.finds Entry.isFile here (beside source name) = .ok true ∧
        left.limits.refuses .remove (place ++ [name]) = none) ∨
      RemovedIn left here source place names p := by
  constructor
  · rintro ⟨⟨other, before, behind, heq, rfl, hfound, hclear⟩, hremove⟩
    cases before with
    | nil =>
      obtain ⟨rfl, -⟩ := List.cons.inj heq
      exact .inl ⟨rfl, hfound, hremove⟩
    | cons first before =>
      obtain ⟨rfl, rfl⟩ := List.cons.inj heq
      exact .inr ⟨⟨other, before, behind, rfl, rfl, hfound,
        fun other' h => hclear other' (.tail _ h)⟩, hremove⟩
  · rintro (⟨rfl, hfound, hremove⟩ | ⟨⟨other, before, behind, rfl, rfl, hfound, hclear⟩, hremove⟩)
    · exact ⟨⟨name, [], names, rfl, rfl, hfound, nofun⟩, hremove⟩
    · refine ⟨⟨other, name :: before, behind, rfl, rfl, hfound, ?_⟩, hremove⟩
      rintro other' (_ | ⟨_, hmem⟩)
      · exact h
      · exact hclear other' hmem

/-- What is found in the way of a name. -/
theorem removeBeside_of_stray {reason : Disk.Reason}
    (h : world.disk.stray? world.here (beside source name) = some reason) :
    removeBeside source name world =
      (.error (.refused ⟨reason, beside source name⟩), world) := by
  have hfinds : world.disk.finds Entry.isFile world.here (beside source name) = .error reason :=
    Disk.finds_eq_error_iff.mpr h
  rw [removeBeside, Action.bind_get]
  rw [beside] at hfinds
  rw [hfinds]
  rfl

/-- Where nothing is in its way, a name is taken: what has it goes if it is a file and that is not
refused, and a refusal is noted. -/
theorem removeBeside_of_clear (hleads : world.disk.LeadsInto world.here source.parent.text place)
    (hname : Disk.IsPlainName name)
    (h : world.disk.stray? world.here (beside source name) = none) :
    ∃ after, removeBeside source name world = (.ok (), after) ∧
      CutFrom world after (· = place ++ [name] ∧
        world.disk.finds Entry.isFile world.here (beside source name) = .ok true ∧
        world.disk.limits.refuses .remove (place ++ [name]) = none) := by
  rw [removeBeside, Action.bind_get]
  rw [beside] at h ⊢
  cases hfinds : world.disk.finds Entry.isFile world.here (source.parent.child name).text with
  | error reason =>
    rw [Disk.finds_eq_error_iff, h] at hfinds
    cases hfinds
  | ok found =>
    cases found with
    | false => exact ⟨world, rfl, .refl world fun p hp => nomatch hp.2.1⟩
    | true =>
      have hunlink := hleads.unlink_child hname hfinds
      cases hremove : world.disk.limits.refuses .remove (place ++ [name]) with
      | some reason =>
        rw [hremove] at hunlink
        let note := unremovedNote (source.parent.child name).text
          ⟨reason, (source.parent.child name).text⟩
        have hnoted : World.Noted world.logPlace? world (Journal.note note world) :=
          World.noted_note note rfl
        refine ⟨Journal.note note world, ?_, hnoted.here, hnoted.log,
          World.pruned_note world.here note world, fun p _ hp => (nomatch hp.2.2),
          fun p _ hlog => hnoted.disk.get?_eq hlog⟩
        simp only [hunlink]
        rfl
      | none =>
        rw [hremove] at hunlink
        have hholds := hleads.holdsFile_child hname hfinds
        refine ⟨{ world with disk := world.disk.erase (place ++ [name]) }, ?_, rfl, rfl,
          hholds.pruned_erase world.here, fun p _ hp _ => ?_, fun p hp _ => ?_⟩
        · simp only [hunlink]
          rfl
        · exact (Disk.get?_erase hholds.ne_nil p).trans (if_pos hp.1)
        · exact (Disk.get?_erase hholds.ne_nil p).trans (if_neg fun heq => hp ⟨heq, rfl, rfl⟩)

/-- Where a file is left in a directory, it is found as before. -/
theorem finds_of_pruned {before after : World}
    (hleads : before.disk.LeadsInto before.here source.parent.text place)
    (hcut : Disk.Pruned before.here before.disk after.disk) (hhere : after.here = before.here)
    (hname : Disk.IsPlainName name) {old new : File}
    (hold : before.disk.get? (place ++ [name]) = some (.file old))
    (hnew : after.disk.get? (place ++ [name]) = some (.file new))
    (h : before.disk.finds Entry.isFile before.here (beside source name) = .ok true) :
    after.disk.finds Entry.isFile after.here (beside source name) = .ok true := by
  have hopen := (hleads.finds_child_iff hname hold).mp h
  rw [← hcut.limits] at hopen
  rw [hhere]
  exact ((hcut.leads _ _ hleads).finds_child_iff hname hnew).mpr hopen

/-- What is to go of some names is to go still when files have been removed, if it is still there. -/
theorem RemovedIn.of_pruned {before after : World}
    (hcut : Disk.Pruned before.here before.disk after.disk) (hhere : after.here = before.here)
    (h : RemovedIn after.disk after.here source place names p) :
    RemovedIn before.disk before.here source place names p := by
  obtain ⟨⟨name, front, behind, rfl, rfl, hfound, hclear⟩, hremove⟩ := h
  rw [hhere] at hfound
  rw [hcut.limits] at hremove
  refine ⟨⟨name, front, behind, rfl, rfl, hcut.found _ hfound, fun other hother => ?_⟩, hremove⟩
  rw [← hcut.stray, ← hhere]
  exact hclear other hother

theorem RemovedIn.to_pruned {before after : World}
    (hleads : before.disk.LeadsInto before.here source.parent.text place)
    (hcut : Disk.Pruned before.here before.disk after.disk) (hhere : after.here = before.here)
    (hnames : ∀ name ∈ names, Disk.IsPlainName name) {old new : File}
    (hold : before.disk.get? p = some (.file old)) (hnew : after.disk.get? p = some (.file new))
    (h : RemovedIn before.disk before.here source place names p) :
    RemovedIn after.disk after.here source place names p := by
  obtain ⟨⟨name, front, behind, rfl, rfl, hfound, hclear⟩, hremove⟩ := h
  have hname := hnames name (List.mem_append_right _ List.mem_cons_self)
  refine ⟨⟨name, front, behind, rfl, rfl,
    finds_of_pruned hleads hcut hhere hname hold hnew hfound, fun other hother => ?_⟩, ?_⟩
  · rw [hhere, hcut.stray]
    exact hclear other hother
  · rw [hcut.limits]
    exact hremove

/-- Names are taken one after the other, up to one that something stands against. -/
theorem forM_removeBeside (hleads : world.disk.LeadsInto world.here source.parent.text place)
    (hnames : ∀ name ∈ names, Disk.IsPlainName name) :
    ∃ result after, names.forM (removeBeside source) world = (result, after) ∧
      (result = .ok () ↔
        ∀ name ∈ names, world.disk.stray? world.here (beside source name) = none) ∧
      (∀ trouble, result = .error trouble → trouble.isIn .typesetting = false) ∧
      CutFrom world after (RemovedIn world.disk world.here source place names) := by
  induction names generalizing world with
  | nil => exact ⟨.ok (), world, rfl, by simp, nofun, .refl world fun _ => not_removedIn_nil⟩
  | cons name rest ih =>
    have hname := hnames name List.mem_cons_self
    have hrest : ∀ other ∈ rest, Disk.IsPlainName other := fun other h => hnames other (.tail _ h)
    rw [List.forM_eq_forM, List.forM_cons]
    cases hstray : world.disk.stray? world.here (beside source name) with
    | some reason =>
      refine ⟨_, world, Action.bind_of_error (removeBeside_of_stray hstray),
        iff_of_false nofun fun h => ?_, ?_, .refl world fun _ => not_removedIn_of_stray hstray⟩
      · cases (h name List.mem_cons_self).symm.trans hstray
      · rintro _ ⟨⟩
        rfl
    | none =>
      obtain ⟨next, htaken, hnext⟩ := removeBeside_of_clear hleads hname hstray
      have hleads' : next.disk.LeadsInto next.here source.parent.text place := by
        rw [hnext.here]
        exact hnext.pruned.leads _ _ hleads
      have hstays (other : Text) : next.disk.stray? next.here (beside source other) =
          world.disk.stray? world.here (beside source other) := by
        rw [hnext.here]
        exact hnext.pruned.stray _
      obtain ⟨result, after, hforM, hok, hfault, hcut⟩ := ih hleads' hrest
      refine ⟨result, after, (Action.bind_of_ok htaken).trans hforM, ?_, hfault, ?_⟩
      · simp only [hok, hstays, List.mem_cons, forall_eq_or_imp, hstray, true_and]
      · exact (hnext.trans hcut (fun _ h => h.of_pruned hnext.pruned hnext.here)
          fun _ _ _ h hold hnew => h.to_pruned hleads hnext.pruned hnext.here hrest hold hnew).congr
            fun _ => removedIn_cons_iff hstray

/-! ### The directory of a source -/

/-- Whether the directory of a source is seen at a place. -/
structure StandsAt (left : Disk) (here : Place) (source : Disk.Path) (place : Place) : Prop where
  path : source.parent.text.contains '\x00' = false
  follow : ∃ slash, left.follow here source.parent.text = .ok ⟨place, slash⟩
  seen : ∃ mode, left.look here source.parent.text = .ok (.directory mode)

/-- The names in a directory that a pattern accepts, in the order in which they are read. -/
def matched (left : Disk) (place : Place) (pattern : List Disk.Glob) : List Text :=
  (left.children place).filter fun name => Disk.Glob.accepts pattern name && Disk.isName name

/-- Whether what is at a place is removed in the end: the directory of the source can be read, and
it is removed when the names that the stem of the source accepts as a pattern are taken. -/
def Removed (left : Disk) (here : Place) (source : Disk.Path) (p : Place) : Prop :=
  ∃ place pattern, StandsAt left here source place ∧ left.limits.refuses .list place = none ∧
    Disk.Glob.parse? (source.stem ++ ".*") = some pattern ∧
    RemovedIn left here source place (matched left place pattern) p

/-- Whether nothing stands against removing the auxiliary files of a source: its stem is a pattern,
its directory can be told and read if there is one, or reading it is just not allowed, and of
everything in it that the pattern accepts it can be told whether it is a file. -/
structure Quiet (left : Disk) (here : Place) (source : Disk.Path) : Prop where
  pattern : Disk.Glob.parse? (source.stem ++ ".*") ≠ none
  seen : source.parent.text.contains '\x00' = false → left.stray? here source.parent.text = none
  list : ∀ place reason, StandsAt left here source place →
    left.limits.refuses .list place = some reason → reason.isForbidden = true
  names : ∀ place pattern name, StandsAt left here source place →
    left.limits.refuses .list place = none →
    Disk.Glob.parse? (source.stem ++ ".*") = some pattern → Disk.Glob.accepts pattern name = true →
    Disk.isName name = true → left.get? (place ++ [name]) ≠ none →
      left.stray? here (beside source name) = none

theorem StandsAt.leadsInto (h : StandsAt left here source place) :
    left.LeadsInto here source.parent.text place := by
  obtain ⟨mode, hseen⟩ := h.seen
  obtain ⟨slash, hfollow⟩ := h.follow
  obtain ⟨target, htarget, hentry, -⟩ := Disk.look_eq_ok_iff.mp hseen
  obtain rfl := Except.ok.inj (hfollow.symm.trans htarget)
  refine ⟨⟨slash, hfollow⟩, ?_⟩
  rw [Disk.isDirectory, hentry]
  rfl

theorem StandsAt.unique {place' : Place} (h : StandsAt left here source place)
    (h' : StandsAt left here source place') : place' = place := by
  obtain ⟨slash, hfollow⟩ := h.follow
  obtain ⟨slash', hfollow'⟩ := h'.follow
  exact congrArg Disk.Target.place (Except.ok.inj (hfollow'.symm.trans hfollow))

theorem StandsAt.finds_eq (h : StandsAt left here source place) :
    left.finds Entry.isDirectory here source.parent.text = .ok true := by
  obtain ⟨mode, hseen⟩ := h.seen
  exact Disk.finds_eq_true_iff.mpr ⟨_, hseen, rfl⟩

theorem standsAt_of_finds (hpath : source.parent.text.contains '\x00' = false)
    (h : left.finds Entry.isDirectory here source.parent.text = .ok true) :
    ∃ place, StandsAt left here source place := by
  obtain ⟨entry, hlook, hdirectory⟩ := Disk.finds_eq_true_iff.mp h
  obtain ⟨target, hfollow, -⟩ := Disk.look_eq_ok_iff.mp hlook
  cases entry with
  | directory mode => exact ⟨target.place, hpath, ⟨target.slash, hfollow⟩, ⟨mode, hlook⟩⟩
  | file file => cases hdirectory
  | link path => cases hdirectory

/-- The names in a directory are those of what is there. -/
theorem mem_children_iff : name ∈ left.children place ↔ left.get? (place ++ [name]) ≠ none := by
  have hroot : (place ++ [name]).isEmpty = false := by simp
  rw [Disk.get?, hroot, if_neg Bool.false_ne_true, Disk.children, List.mem_filterMap]
  constructor
  · rintro ⟨⟨p, entry⟩, hmem, h⟩
    dsimp only at h
    split at h
    · rename_i hp
      obtain ⟨hne, rfl⟩ := hp
      rw [List.getLast?_eq_getLast_of_ne_nil hne] at h
      rw [← Option.some.inj h, List.dropLast_concat_getLast hne]
      intro hnone
      have hne := List.lookup_eq_none_iff.mp hnone _ hmem
      rw [bne_self_eq_false] at hne
      cases hne
    · cases h
  · intro hsome
    obtain ⟨entry, hentry⟩ := Option.ne_none_iff_exists'.mp hsome
    obtain ⟨before, behind, hentries, -⟩ := List.lookup_eq_some_iff.mp hentry
    refine ⟨(place ++ [name], entry), hentries ▸ List.mem_append_right _ List.mem_cons_self, ?_⟩
    simp

theorem mem_matched_iff {pattern : List Disk.Glob} :
    name ∈ matched left place pattern ↔ left.get? (place ++ [name]) ≠ none ∧
      Disk.Glob.accepts pattern name = true ∧ Disk.isName name = true := by
  rw [matched, List.mem_filter, mem_children_iff, Bool.and_eq_true]

/-- What comes of the directory of a source: it cannot be told or read, or there is nothing to be
read, or the names are those in it. -/
theorem namesBeside_cases (source : Disk.Path) (world : World) :
    (∃ reason, namesBeside source world = .error reason ∧
        ((source.parent.text.contains '\x00' = false ∧
            world.disk.stray? world.here source.parent.text = some reason) ∨
          ∃ place, StandsAt world.disk world.here source place ∧
            world.disk.limits.refuses .list place = some reason ∧ reason.isForbidden = false)) ∨
      (namesBeside source world = .ok [] ∧
        (source.parent.text.contains '\x00' = false →
          world.disk.stray? world.here source.parent.text = none) ∧
        ∀ place, StandsAt world.disk world.here source place →
          ∃ reason, world.disk.limits.refuses .list place = some reason ∧
            reason.isForbidden = true) ∨
      ∃ place, StandsAt world.disk world.here source place ∧
        world.disk.limits.refuses .list place = none ∧
        namesBeside source world = .ok ((world.disk.children place).filter Disk.isName) := by
  rw [namesBeside]
  cases hpath : source.parent.text.contains '\x00' with
  | true =>
    refine .inr (.inl ⟨if_pos rfl, nofun, fun place h => ?_⟩)
    cases hpath.symm.trans h.path
  | false =>
    rw [if_neg Bool.false_ne_true]
    cases hfinds : world.disk.finds Entry.isDirectory world.here source.parent.text with
    | error reason => exact .inl ⟨reason, rfl, .inl ⟨rfl, Disk.finds_eq_error_iff.mp hfinds⟩⟩
    | ok found =>
      have hclear : world.disk.stray? world.here source.parent.text = none := by
        by_contra hstray
        obtain ⟨reason, hreason⟩ := Option.ne_none_iff_exists'.mp hstray
        cases (Disk.finds_eq_error_iff.mpr hreason).symm.trans hfinds
      cases found with
      | false =>
        refine .inr (.inl ⟨rfl, fun _ => hclear, fun place h => ?_⟩)
        cases hfinds.symm.trans h.finds_eq
      | true =>
        obtain ⟨place, hstands⟩ := standsAt_of_finds hpath hfinds
        obtain ⟨slash, hfollow⟩ := hstands.follow
        simp only [Disk.names, hfollow]
        cases hlist : world.disk.limits.refuses .list place with
        | none => exact .inr (.inr ⟨place, hstands, hlist, rfl⟩)
        | some reason =>
          cases hforbidden : reason.isForbidden with
          | true =>
            refine .inr (.inl ⟨by simp [hforbidden], fun _ => hclear, fun other h => ?_⟩)
            obtain rfl := hstands.unique h
            exact ⟨reason, hlist, hforbidden⟩
          | false =>
            exact .inl ⟨reason, by simp [hforbidden], .inr ⟨place, hstands, hlist, hforbidden⟩⟩

section

variable {pattern : List Disk.Glob} (hstands : StandsAt left here source place)
  (hlist : left.limits.refuses .list place = none)
  (hpattern : Disk.Glob.parse? (source.stem ++ ".*") = some pattern)
include hstands hlist hpattern

theorem removed_iff :
    Removed left here source p ↔
      RemovedIn left here source place (matched left place pattern) p := by
  refine ⟨?_, fun h => ⟨place, pattern, hstands, hlist, hpattern, h⟩⟩
  rintro ⟨place', pattern', hstands', -, hpattern', h⟩
  rwa [hstands.unique hstands', Option.some.inj (hpattern'.symm.trans hpattern)] at h

/-- Where the names in the directory can be read, it hangs on those that the pattern accepts. -/
theorem quiet_iff :
    Quiet left here source ↔
      ∀ name ∈ matched left place pattern, left.stray? here (beside source name) = none := by
  constructor
  · intro h name hname
    obtain ⟨hthere, haccepts, hisName⟩ := mem_matched_iff.mp hname
    exact h.names place pattern name hstands hlist hpattern haccepts hisName hthere
  · intro h
    refine ⟨hpattern ▸ nofun, fun _ => ?_, fun other reason hother hrefuses => ?_,
      fun other pattern' name hother _ hpattern' haccepts hname hthere => ?_⟩
    · by_contra hstray
      obtain ⟨reason, hreason⟩ := Option.ne_none_iff_exists'.mp hstray
      cases hstands.finds_eq.symm.trans (Disk.finds_eq_error_iff.mpr hreason)
    · obtain rfl := hstands.unique hother
      cases hlist.symm.trans hrefuses
    · obtain rfl := hstands.unique hother
      obtain rfl := Option.some.inj (hpattern.symm.trans hpattern')
      exact h name (mem_matched_iff.mpr ⟨hthere, haccepts, hname⟩)

end

/-- Where no names can be read, nothing is removed. -/
theorem not_removed (h : ∀ place, StandsAt left here source place →
    ∃ reason, left.limits.refuses .list place = some reason) : ¬ Removed left here source p := by
  rintro ⟨place, _, hstands, hlist, -⟩
  obtain ⟨reason, hrefuses⟩ := h place hstands
  cases hlist.symm.trans hrefuses

/-- **What is removed beside a source, and whether there is trouble, can be told beforehand.** -/
theorem sweepBeside_spec (source : Disk.Path) (world : World) :
    ∃ result after, sweepBeside source world = (result, after) ∧
      (result = .ok () ↔ Quiet world.disk world.here source) ∧
      (∀ trouble, result = .error trouble → trouble.isIn .typesetting = false) ∧
      CutFrom world after (Removed world.disk world.here source) := by
  cases hpattern : Disk.Glob.parse? (source.stem ++ ".*") with
  | none =>
    refine ⟨.error .badPattern, world, by rw [sweepBeside, hpattern]; rfl,
      iff_of_false nofun fun h => h.pattern hpattern, ?_, .refl world ?_⟩
    · rintro _ ⟨⟩
      rfl
    · rintro p ⟨place, pattern, -, -, h, -⟩
      cases hpattern.symm.trans h
  | some pattern =>
    obtain ⟨reason, hnames, hwhy⟩ | ⟨hnames, hclear, hclosed⟩ | ⟨place, hstands, hlist, hnames⟩ :=
      namesBeside_cases source world
    · refine ⟨.error (.refused ⟨reason, source.parent.text⟩), world, ?_, iff_of_false nofun ?_, ?_,
        .refl world fun _ => not_removed fun place hstands => ?_⟩
      · rw [sweepBeside, hpattern]
        simp only [Action.bind_get, hnames]
        rfl
      · intro h
        obtain ⟨hpath, hstray⟩ | ⟨place, hstands, hlist, hforbidden⟩ := hwhy
        · cases (h.seen hpath).symm.trans hstray
        · cases (h.list place reason hstands hlist).symm.trans hforbidden
      · rintro _ ⟨⟩
        rfl
      · obtain ⟨hpath, hstray⟩ | ⟨other, hother, hrefuses, -⟩ := hwhy
        · cases hstands.finds_eq.symm.trans (Disk.finds_eq_error_iff.mpr hstray)
        · obtain rfl := hother.unique hstands
          exact ⟨reason, hrefuses⟩
    · refine ⟨.ok (), world, ?_, iff_of_true rfl ⟨hpattern ▸ nofun, hclear, ?_, ?_⟩, nofun,
        .refl world fun _ => not_removed fun place hstands => ?_⟩
      · rw [sweepBeside, hpattern]
        simp only [Action.bind_get, hnames]
        rfl
      · intro place reason hstands hrefuses
        obtain ⟨other, hother, hforbidden⟩ := hclosed place hstands
        obtain rfl := Option.some.inj (hrefuses.symm.trans hother)
        exact hforbidden
      · intro place _ name hstands hlist
        obtain ⟨other, hother, -⟩ := hclosed place hstands
        cases hlist.symm.trans hother
      · obtain ⟨other, hother, -⟩ := hclosed place hstands
        exact ⟨other, hother⟩
    · have hplain : ∀ name ∈ matched world.disk place pattern, Disk.IsPlainName name :=
        fun name hname => Disk.isPlainName_of_isName (mem_matched_iff.mp hname).2.2
      obtain ⟨result, after, hforM, hok, hfault, hcut⟩ :=
        forM_removeBeside hstands.leadsInto hplain
      refine ⟨result, after, ?_, hok.trans (quiet_iff hstands hlist hpattern).symm, hfault,
        hcut.congr fun _ => removed_iff hstands hlist hpattern⟩
      rw [sweepBeside, hpattern]
      simp only [Action.bind_get, hnames, List.filter_filter]
      exact hforM

end Typeset

end Agenda
