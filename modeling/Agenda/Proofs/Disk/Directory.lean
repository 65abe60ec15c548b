import Agenda.Disk.Path
import Agenda.Proofs.Disk.Frame
import Agenda.Proofs.Text.Lines
import Mathlib.Data.List.Infix

/-!
# Directories that are made

A directory is made where nothing is, and from then on its path leads into it
(`makeDirectory_spec`). Where everything stands in a directory, nothing is below the place of a new
one (`IsTree.get?_below`). A plain name behind the path of a directory leads to the place of that
name in it (`LeadsInto.follow_slash`), and a directory is removed with all that is below it and
nothing else (`get?_eraseTree`).
-/

namespace Agenda.Disk

variable {disk : Disk} {here place p : Place} {path name : Text}

/-! ### Trees -/

/-- Whether everything on a disk stands in a directory. -/
def IsTree (disk : Disk) : Prop := ∀ entry ∈ disk.entries, disk.isDirectory entry.1.dropLast = true

instance (disk : Disk) : Decidable disk.IsTree := inferInstanceAs (Decidable (∀ _ ∈ _, _))

theorem IsTree.isDirectory_dropLast (h : disk.IsTree) (hp : disk.get? p ≠ none) :
    disk.isDirectory p.dropLast = true := by
  by_cases hroot : p = []
  · subst hroot
    rfl
  · rw [get?, List.isEmpty_eq_false_iff.mpr hroot, if_neg Bool.false_ne_true] at hp
    obtain ⟨entry, hentry⟩ := Option.ne_none_iff_exists'.mp hp
    obtain ⟨before, behind, hentries, -⟩ := List.lookup_eq_some_iff.mp hentry
    exact h (p, entry) (hentries ▸ List.mem_append_right _ List.mem_cons_self)

/-- Where there is nothing, there is nothing below. -/
theorem IsTree.get?_below (h : disk.IsTree) (hnone : disk.get? place = none)
    (hp : place <+: p) : disk.get? p = none := by
  obtain ⟨rest, rfl⟩ := hp
  induction rest using List.reverseRecOn with
  | nil => rwa [List.append_nil]
  | append_singleton rest name ih =>
    by_contra hsome
    have hdirectory := h.isDirectory_dropLast hsome
    rw [← List.append_assoc, List.dropLast_concat, isDirectory, ih] at hdirectory
    cases hdirectory

theorem place_ne_nil_of_none (h : disk.get? place = none) : place ≠ [] := by
  rintro rfl
  cases h

/-- A directory goes with all that is below it. -/
theorem get?_eraseTree (hplace : place ≠ []) (p : Place) :
    (disk.eraseTree place).get? p = if place <+: p then none else disk.get? p := by
  by_cases hroot : p = []
  · subst hroot
    rw [if_neg fun h => hplace (List.prefix_nil.mp h)]
    rfl
  · have hempty : p.isEmpty = false := List.isEmpty_eq_false_iff.mpr hroot
    have hlookup : (disk.eraseTree place).entries.lookup p = _ :=
      lookup_filter (fun p => !place.isPrefixOf p) disk.entries p
    rw [get?, hempty, if_neg Bool.false_ne_true, hlookup, get?, hempty, if_neg Bool.false_ne_true]
    simp only [Bool.not_eq_true', ← Bool.not_eq_true, List.isPrefixOf_iff_prefix, ite_not]

/-! ### The way to a new directory -/

/-- A way to a place where there is nothing leads there when something has been put there that is no
link: nothing on the way is there, and at its end no link was followed. -/
theorem walkWith_put {entry : Entry} (hentry : ∀ path, entry ≠ .link path)
    (hnone : disk.get? place = none) {through : Bool}
    {jump jump' : Place → List Text → Except Reason Place}
    (hjump : ∀ start names, jump start names = .ok place → jump' start names = .ok place)
    {start : Place} {names : List Text} (h : disk.walkWith through jump start names = .ok place) :
    (disk.put place entry).walkWith true jump' start names = .ok place := by
  have hput (q : Place) : (disk.put place entry).get? q =
      if q = place then some entry else disk.get? q := get?_put (place_ne_nil_of_none hnone) q
  have hpassed {q : Place} {other : Entry} (hq : disk.get? q = some other) :
      (disk.put place entry).get? q = some other := by
    rw [hput, if_neg, hq]
    rintro rfl
    cases hnone.symm.trans hq
  have hopen {q : Place} (hq : disk.barrier? q = none) :
      (disk.put place entry).barrier? q = none := by
    obtain ⟨⟨mode, hmode⟩, hsearch⟩ := barrier?_eq_none_iff.mp hq
    exact barrier?_eq_none_iff.mpr ⟨⟨mode, hpassed hmode⟩, hsearch⟩
  fun_induction disk.walkWith through jump start names with
  | case1 start => rwa [walkWith]
  | case2 => cases h
  | case3 => cases h
  | case4 start rest hstart hshort ih =>
    rw [walkWith, hopen hstart]
    simp only [if_neg hshort, if_true]
    exact ih h
  | case5 start rest hstart hshort hdot ih =>
    rw [walkWith, hopen hstart]
    simp only [if_neg hshort, if_neg hdot, if_true]
    exact ih h
  | case6 start name rest hstart hshort hdot hdots path hlast hnext =>
    rw [walkWith, hopen hstart]
    simp only [if_neg hshort, if_neg hdot, if_neg hdots, hpassed hnext, Bool.not_true,
      Bool.and_false]
    exact hjump _ _ h
  | case7 start name rest hstart hshort hdot hdots hnext ih =>
    rw [walkWith, hopen hstart]
    simp only [if_neg hshort, if_neg hdot, if_neg hdots]
    split
    · -- The last name of the way would be a link, but at the place there is none.
      rename_i path hlink hlast
      rw [hput] at hlink
      split at hlink
      · exact absurd (Option.some.inj hlink) (hentry path)
      · rename_i hne
        have hend : (rest.isEmpty && !through) = true :=
          Bool.not_eq_false _ ▸ fun hfalse => hnext path hlink hfalse
        rw [Bool.and_eq_true, List.isEmpty_iff] at hend
        rw [hend.1, walkWith] at h
        exact absurd (Except.ok.inj h) hne
    · exact ih h

theorem walk_put {entry : Entry} (hentry : ∀ path, entry ≠ .link path)
    (hnone : disk.get? place = none) {through : Bool} {links : Nat} {start : Place}
    {names : List Text} (h : disk.walk through links start names = .ok place) :
    (disk.put place entry).walk true links start names = .ok place := by
  induction links generalizing start names with
  | zero =>
    refine walkWith_put hentry hnone (fun _ _ hjump => ?_) h
    cases hjump
  | succ links ih => exact walkWith_put hentry hnone (fun _ _ => ih) h

theorem trace_eq_ok_iff {through : Bool} {target : Target} :
    disk.trace through here path = .ok target ↔
      path ≠ [] ∧ (Text.toBytes path).size < pathLimit ∧
        disk.walk (through || Text.endsWith "/" path) linkLimit
          (if Text.startsWith "/" path then [] else here) (namesOf path) = .ok target.place ∧
        target.slash = Text.endsWith "/" path := by
  rw [trace]
  by_cases hempty : path.isEmpty = true
  · rw [if_pos hempty]
    refine iff_of_false (fun h => ?_) fun h => h.1 (List.isEmpty_iff.mp hempty)
    cases h
  by_cases hlong : pathLimit ≤ (Text.toBytes path).size
  · rw [if_neg hempty, if_pos hlong]
    refine iff_of_false (fun h => ?_) fun h => h.2.1.not_ge hlong
    cases h
  rw [if_neg hempty, if_neg hlong]
  dsimp only
  cases disk.walk (through || Text.endsWith "/" path) linkLimit
      (if Text.startsWith "/" path then [] else here) (namesOf path) with
  | error reason =>
    constructor
    · intro h
      cases h
    · rintro ⟨-, -, h, -⟩
      cases h
  | ok place =>
    obtain ⟨place', slash⟩ := target
    simp [Except.map, List.isEmpty_iff.not.mp hempty, not_le.mp hlong, eq_comm]

/-- Something that is put where nothing was, and is no link, is found at the end of its path. -/
theorem follow_put {entry : Entry} (hentry : ∀ path, entry ≠ .link path) {through : Bool}
    {target : Target} (h : disk.trace through here path = .ok target)
    (hnone : disk.get? target.place = none) :
    (disk.put target.place entry).follow here path = .ok target := by
  obtain ⟨hempty, hshort, hwalk, hslash⟩ := trace_eq_ok_iff.mp h
  exact trace_eq_ok_iff.mpr ⟨hempty, hshort, walk_put hentry hnone hwalk, hslash⟩

/-- Whether a path leads to a directory at a place. -/
structure LeadsInto (disk : Disk) (here : Place) (path : Text) (place : Place) : Prop where
  follow : ∃ slash, disk.follow here path = .ok ⟨place, slash⟩
  directory : disk.isDirectory place = true

/-- A path leads into a directory whatever is written to files. -/
theorem SameBut.leadsInto {place? : Option Place} {before after : Disk}
    (h : SameBut place? before after) (hleads : before.LeadsInto here path place) :
    after.LeadsInto here path place := by
  obtain rfl | ⟨written, -, hwritten⟩ := h
  · exact hleads
  · obtain ⟨slash, hfollow⟩ := hleads.follow
    exact ⟨⟨slash, hwritten.follow_eq_ok_iff.mpr hfollow⟩,
      (hwritten.isDirectory_eq place).trans hleads.directory⟩

/-- A directory is made where nothing was, and its path leads into it. -/
theorem makeDirectory_spec {made : Disk} (h : disk.makeDirectory here path = .ok made) :
    ∃ target, disk.trace false here path = .ok target ∧ disk.get? target.place = none ∧
      made = disk.put target.place disk.newDirectory ∧ made.LeadsInto here path target.place := by
  rw [makeDirectory] at h
  split at h
  · cases h
  · rename_i target htarget
    split at h
    · cases h
    · rename_i hsome
      have hnone : disk.get? target.place = none := Option.not_isSome_iff_eq_none.mp hsome
      split at h
      · split at h
        · cases h
        · obtain rfl := Except.ok.inj h
          have hfollow : (disk.put target.place disk.newDirectory).follow here path = .ok target :=
            follow_put (fun _ h => by cases h) htarget hnone
          refine ⟨target, htarget, hnone, rfl, ⟨target.slash, hfollow⟩, ?_⟩
          rw [isDirectory, get?_put (place_ne_nil_of_none hnone), if_pos rfl]
          rfl
      · cases h

/-! ### The way into a directory -/

/-- A way along some names and further ones goes on from where the former lead to, however many
links may be followed there, unless there are too many of them for it. -/
theorem walkWith_append (ends : Except Reason Place → Prop) {more : List Text} {through : Bool}
    {jump jump' : Place → List Text → Except Reason Place} {start : Place} {names : List Text}
    (hend : (more.isEmpty && !through) = false)
    (h : disk.walkWith true jump start names = .ok place)
    (hmore : ends (disk.walkWith through jump' place more))
    (hjump : ∀ start names, jump start names = .ok place → ends (jump' start (names ++ more))) :
    ends (disk.walkWith through jump' start (names ++ more)) := by
  fun_induction disk.walkWith true jump start names with
  | case1 start =>
    obtain rfl := Except.ok.inj h
    exact hmore
  | case2 => cases h
  | case3 => cases h
  | case4 start rest hstart hshort ih =>
    rw [List.cons_append, walkWith, hstart]
    simp only [if_neg hshort, if_true]
    exact ih h
  | case5 start rest hstart hshort hdot ih =>
    rw [List.cons_append, walkWith, hstart]
    simp only [if_neg hshort, if_neg hdot, if_true]
    exact ih h
  | case6 start name rest hstart hshort hdot hdots path hlast hnext =>
    have hfollowed : ((rest ++ more).isEmpty && !through) = false := by
      cases rest with
      | nil => exact hend
      | cons next others => rfl
    rw [List.cons_append, walkWith, hstart]
    simp only [if_neg hshort, if_neg hdot, if_neg hdots, hnext, hfollowed]
    rw [← List.append_assoc]
    exact hjump _ _ h
  | case7 start name rest hstart hshort hdot hdots hnext ih =>
    rw [List.cons_append, walkWith, hstart]
    simp only [if_neg hshort, if_neg hdot, if_neg hdots]
    split
    · rename_i path hlink _
      exact absurd (by rw [Bool.not_true, Bool.and_false]) (hnext path hlink)
    · exact ih h

theorem walk_append {links : Nat} {start : Place} {names : List Text}
    (h : disk.walk true links start names = .ok place) (more : List Text) (others : Nat) :
    disk.walk true others start (names ++ more) = .error .tooManyLinks ∨
      ∃ left, disk.walk true others start (names ++ more) = disk.walk true left place more := by
  let ends (way : Except Reason Place) : Prop :=
    way = .error .tooManyLinks ∨ ∃ left, way = disk.walk true left place more
  have hend : (more.isEmpty && !true) = false := Bool.and_false _
  -- The induction is on the links that the way along the former names may follow.
  induction links generalizing others start names with
  | zero =>
    cases others with
    | zero => exact walkWith_append ends hend h (.inr ⟨0, rfl⟩) nofun
    | succ others => exact walkWith_append ends hend h (.inr ⟨others + 1, rfl⟩) nofun
  | succ links ih =>
    cases others with
    | zero => exact walkWith_append ends hend h (.inr ⟨0, rfl⟩) fun _ _ _ => .inl rfl
    | succ others =>
      exact walkWith_append ends hend h (.inr ⟨others + 1, rfl⟩) fun _ _ hjump => ih hjump others

theorem exists_walk_append {through : Bool} {more : List Text}
    (hend : (more.isEmpty && !through) = false) {links : Nat} {start : Place} {names : List Text}
    (h : disk.walk true links start names = .ok place) :
    ∃ left, disk.walk through links start (names ++ more) = disk.walk through left place more := by
  let ends (way : Except Reason Place) : Prop := ∃ left, way = disk.walk through left place more
  induction links generalizing start names with
  | zero => exact walkWith_append ends hend h ⟨0, rfl⟩ nofun
  | succ links ih => exact walkWith_append ends hend h ⟨links + 1, rfl⟩ fun _ _ => ih

/-- Whether a text names something in a directory and nothing else. -/
def IsPlainName (name : Text) : Prop :=
  '/' ∉ name ∧ name ≠ [] ∧ name ≠ ['.'] ∧ name ≠ ['.', '.'] ∧ (Text.toBytes name).size ≤ 255

instance (name : Text) : Decidable (IsPlainName name) := inferInstanceAs (Decidable (_ ∧ _))

theorem walkWith_name {jump : Place → List Text → Except Reason Place} (hname : IsPlainName name)
    (hplace : disk.barrier? place = none)
    (hlink : ∀ path, disk.get? (place ++ [name]) ≠ some (.link path)) :
    disk.walkWith true jump place [name] = .ok (place ++ [name]) := by
  obtain ⟨-, -, hdot, hdots, hsize⟩ := hname
  rw [walkWith, hplace]
  simp only [if_neg hsize.not_gt, if_neg hdot, if_neg hdots]
  split
  · rename_i path hpath _
    exact absurd hpath (hlink path)
  · rw [walkWith]

/-- From a directory, the name of something in it that is no link leads there. -/
theorem walk_name (hname : IsPlainName name) (hplace : disk.barrier? place = none)
    (hlink : ∀ path, disk.get? (place ++ [name]) ≠ some (.link path)) (links : Nat) :
    disk.walk true links place [name] = .ok (place ++ [name]) := by
  cases links <;> exact walkWith_name hname hplace hlink

theorem walk_cons_of_barrier? {links : Nat} {reason : Reason} {rest : List Text}
    (h : disk.barrier? place = some reason) (through : Bool) :
    disk.walk through links place (name :: rest) = .error reason := by
  cases links <;> (rw [walk, walkWith, h])

/-- What a way goes on from may be passed through. -/
theorem barrier?_of_walk_cons {links : Nat} {through : Bool} {rest : List Text} {reached : Place}
    (h : disk.walk through links place (name :: rest) = .ok reached) : disk.barrier? place = none := by
  by_contra hbarrier
  obtain ⟨reason, hreason⟩ := Option.ne_none_iff_exists'.mp hbarrier
  cases (walk_cons_of_barrier? hreason through).symm.trans h

theorem namesOf_append (start : Text) (hname : IsPlainName name) :
    namesOf (start ++ '/' :: name) = namesOf start ++ [name] := by
  have hsplit : name.splitOn '/' = [name] := List.splitOn_eq_singleton hname.1
  rw [namesOf, List.splitOn_append_cons_self, List.filter_append, hsplit, namesOf]
  simp [hname.2.1]

theorem startsWith_slash_append {start : Text} (hstart : start ≠ []) (more : Text) :
    Text.startsWith "/" (start ++ more) = Text.startsWith "/" start := by
  obtain ⟨c, rest, rfl⟩ := List.exists_cons_of_ne_nil hstart
  rfl

theorem endsWith_slash_of_isPlainName (hname : IsPlainName name) (start : Text) :
    Text.endsWith "/" (start ++ name) = false := by
  obtain ⟨hslash, hne, -⟩ := hname
  rw [Bool.eq_false_iff]
  intro hends
  obtain ⟨front, heq⟩ : ['/'] <:+ start ++ name := List.isSuffixOf_iff_suffix.mp hends
  have hlast := congrArg List.getLast? heq
  rw [List.getLast?_concat, List.getLast?_append, List.getLast?_eq_getLast_of_ne_nil hne] at hlast
  have hchar : '/' = name.getLast hne := Option.some.inj hlast
  exact hslash (hchar ▸ List.getLast_mem hne)

/-- A path that goes on from where another one leads to is followed from there. -/
theorem LeadsInto.trace_append {start path : Text} {more : List Text} {through : Bool}
    (hleads : disk.LeadsInto here start place) (hpath : path ≠ [])
    (hstart : Text.startsWith "/" path = Text.startsWith "/" start)
    (hslash : Text.endsWith "/" path = false) (hnames : namesOf path = namesOf start ++ more)
    (hend : (more.isEmpty && !through) = false) :
    ∃ links, disk.trace through here path =
      if pathLimit ≤ (Text.toBytes path).size then .error .nameTooLong
      else (disk.walk through links place more).map (⟨·, false⟩) := by
  obtain ⟨slash, hfollow⟩ := hleads.follow
  obtain ⟨-, -, hwalk, -⟩ := trace_eq_ok_iff.mp hfollow
  rw [Bool.true_or] at hwalk
  obtain ⟨links, hrest⟩ := exists_walk_append hend hwalk
  refine ⟨links, ?_⟩
  rw [trace, if_neg (List.isEmpty_iff.not.mpr hpath), hstart, hnames, hslash]
  simp only [Bool.or_false, hrest]

/-- Behind the path of a directory, the name of something in it leads there, unless it is a link. -/
theorem LeadsInto.follow_slash {start : Text} {reached : Target}
    (hleads : disk.LeadsInto here start place) (hname : IsPlainName name)
    (hlink : ∀ path, disk.get? (place ++ [name]) ≠ some (.link path))
    (h : disk.follow here (start ++ '/' :: name) = .ok reached) :
    reached.place = place ++ [name] := by
  obtain ⟨slash, hstart⟩ := hleads.follow
  obtain ⟨hempty, -⟩ := trace_eq_ok_iff.mp hstart
  obtain ⟨links, hpath⟩ := hleads.trace_append (by simp) (startsWith_slash_append hempty _)
    (by simpa using endsWith_slash_of_isPlainName hname (start ++ ['/']))
    (namesOf_append start hname) rfl
  rw [Disk.follow, hpath] at h
  split at h
  · cases h
  · cases hwalk : disk.walk true links place [name] with
    | error reason => rw [hwalk] at h; cases h
    | ok found =>
      rw [hwalk] at h
      obtain rfl := Except.ok.inj h
      have hplain := walk_name hname (barrier?_of_walk_cons hwalk) hlink links
      exact Except.ok.inj (hwalk.symm.trans hplain)

/-! ### The path of something in a directory -/

theorem join_concat {parts : List Text} (h : parts ≠ []) (separator last : Text) :
    Text.join separator (parts ++ [last]) = Text.join separator parts ++ (separator ++ last) := by
  induction parts with
  | nil => exact absurd rfl h
  | cons first rest ih =>
    cases rest with
    | nil =>
      rw [Text.join, Text.join, List.singleton_append, List.intercalate_cons_cons,
        List.intercalate_singleton, List.intercalate_singleton, List.append_assoc]
    | cons second rest =>
      rw [Text.join, Text.join] at ih ⊢
      rw [List.cons_append, List.cons_append, List.intercalate_cons_cons,
        List.intercalate_cons_cons, ← List.cons_append, ih (List.cons_ne_nil second rest),
        ← List.append_assoc]

theorem Path.text_child {path : Path} (h : path.names ≠ []) (name : Text) :
    (path.child name).text = path.text ++ '/' :: name := by
  have hnames : path.names.isEmpty = false := List.isEmpty_eq_false_iff.mpr h
  have hconcat : (path.names ++ [name]).isEmpty = false := by simp
  rw [Path.text, Path.text, Path.child]
  simp only [hnames, hconcat, Bool.false_eq_true, and_false, if_false]
  rw [join_concat h, ← List.append_assoc]
  rfl

theorem namesOf_replicate (n : Nat) : namesOf (List.replicate n '/') = [] := by
  rw [namesOf, List.filter_eq_nil_iff]
  intro name hmem hne
  obtain ⟨hslash, hsubset⟩ := Text.mem_splitOn_spec hmem
  obtain ⟨c, rest, rfl⟩ := List.exists_cons_of_ne_nil (of_decide_eq_true hne)
  have hc := hsubset List.mem_cons_self
  exact hslash (List.eq_of_mem_replicate hc ▸ List.mem_cons_self)

/-- A dot leads from a directory to itself. -/
theorem eq_of_walk_dot {links : Nat} {through : Bool}
    (h : disk.walk through links here [['.']] = .ok place) : place = here := by
  have hhere := barrier?_of_walk_cons h
  have hdot (jump : Place → List Text → Except Reason Place) :
      disk.walkWith through jump here [['.']] = .ok here := by
    rw [walkWith, hhere]
    simp only [if_true, walkWith]
    exact if_neg (by decide)
  cases links <;> exact Except.ok.inj (h.symm.trans (hdot _))

theorem Path.text_eq_dot {path : Path} (hslashes : path.slashes = 0) (hnames : path.names = []) :
    path.text = ['.'] := by
  rw [text, if_pos ⟨hslashes, List.isEmpty_iff.mpr hnames⟩]
  rfl

theorem Path.text_eq_replicate {path : Path} (hslashes : path.slashes ≠ 0) (hnames : path.names = []) :
    path.text = List.replicate path.slashes '/' := by
  rw [text, if_neg fun h => hslashes h.1, hnames]
  exact List.append_nil _

theorem startsWith_slash_of_isPlainName (hname : IsPlainName name) :
    Text.startsWith "/" name = false := by
  obtain ⟨c, rest, rfl⟩ := List.exists_cons_of_ne_nil hname.2.1
  have hc : c ≠ '/' := fun heq => hname.1 (heq ▸ List.mem_cons_self)
  show (['/'].isPrefixOf (c :: rest)) = false
  simp [List.isPrefixOf, Ne.symm hc]

/-- A dot leads to the directory that it is followed from. -/
theorem LeadsInto.eq_of_dot (hleads : disk.LeadsInto here ['.'] place) : place = here := by
  obtain ⟨slash, hfollow⟩ := hleads.follow
  obtain ⟨-, -, hwalk, -⟩ := trace_eq_ok_iff.mp hfollow
  exact eq_of_walk_dot hwalk

/-- The path of something in a directory is followed from that directory. -/
theorem LeadsInto.trace_child {path : Path} (hleads : disk.LeadsInto here path.text place)
    (hname : IsPlainName name) (through : Bool) :
    ∃ links, disk.trace through here (path.child name).text =
      if pathLimit ≤ (Text.toBytes (path.child name).text).size then .error .nameTooLong
      else (disk.walk through links place [name]).map (⟨·, false⟩) := by
  by_cases hnames : path.names = []
  · by_cases hslashes : path.slashes = 0
    · -- The directory is the one that paths are followed from.
      rw [Path.text_eq_dot hslashes hnames] at hleads
      obtain rfl := hleads.eq_of_dot
      have htext : (path.child name).text = name := by
        rw [Path.text, Path.child, hnames, if_neg (by simp), hslashes]
        exact List.append_nil name
      have hends : Text.endsWith "/" name = false := endsWith_slash_of_isPlainName hname []
      have hsingle : namesOf name = [name] := by
        rw [namesOf, List.splitOn_eq_singleton hname.1]
        simp [hname.2.1]
      refine ⟨linkLimit, ?_⟩
      rw [htext, trace, if_neg (List.isEmpty_iff.not.mpr hname.2.1), hends, hsingle,
        startsWith_slash_of_isPlainName hname]
      simp only [Bool.or_false, Bool.false_eq_true, if_false]
    · -- The directory is the root.
      obtain ⟨n, hn⟩ := Nat.exists_eq_succ_of_ne_zero hslashes
      have htext : (path.child name).text = List.replicate n '/' ++ '/' :: name := by
        rw [Path.text, Path.child, hnames, if_neg (by simp), hn, List.replicate_succ',
          List.append_assoc]
        exact congrArg _ (congrArg _ (List.append_nil name))
      have hstart := Path.text_eq_replicate hslashes hnames
      rw [hstart] at hleads
      rw [htext]
      refine hleads.trace_append (by simp) ?_ ?_ ?_ rfl
      · rw [hn]
        cases n <;> rfl
      · simpa using endsWith_slash_of_isPlainName hname (List.replicate n '/' ++ ['/'])
      · rw [namesOf_append _ hname, namesOf_replicate, namesOf_replicate]
  · rw [Path.text_child hnames]
    obtain ⟨slash, hstart⟩ := hleads.follow
    obtain ⟨hempty, -⟩ := trace_eq_ok_iff.mp hstart
    exact hleads.trace_append (by simp) (startsWith_slash_append hempty _)
      (by simpa using endsWith_slash_of_isPlainName hname (path.text ++ ['/']))
      (namesOf_append _ hname) rfl

/-- A path without names leads to a directory that is there. -/
theorem Path.names_ne_nil_of_makeDirectory {path : Path} {made : Disk}
    (h : disk.makeDirectory here path.text = .ok made) : path.names ≠ [] := by
  obtain ⟨target, htarget, hnone, -⟩ := makeDirectory_spec h
  obtain ⟨-, -, hwalk, -⟩ := trace_eq_ok_iff.mp htarget
  intro hnames
  by_cases hslashes : path.slashes = 0
  · -- The path is a dot, which leads to the directory that it is followed from.
    rw [text_eq_dot hslashes hnames] at hwalk
    obtain ⟨⟨mode, hmode⟩, -⟩ := barrier?_eq_none_iff.mp (barrier?_of_walk_cons hwalk)
    obtain rfl := eq_of_walk_dot hwalk
    cases hnone.symm.trans hmode
  · -- There is nothing but slashes, which lead to the root.
    have htext := text_eq_replicate hslashes hnames
    obtain ⟨n, hn⟩ := Nat.exists_eq_succ_of_ne_zero hslashes
    have hstart : Text.startsWith "/" (List.replicate path.slashes '/') = true := by
      rw [hn]
      rfl
    rw [htext, namesOf_replicate, if_pos hstart] at hwalk
    exact place_ne_nil_of_none hnone (Except.ok.inj hwalk).symm

end Agenda.Disk
