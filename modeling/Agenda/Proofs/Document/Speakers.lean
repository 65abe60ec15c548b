import Agenda.Document.Entry
import Agenda.Proofs.Text.Trim
import Mathlib.Logic.Relation

/-!
# Lists of speakers

Names joined to one line and put between brackets are read as these names again
(`speakersOf_brackets`). Reading drops the brackets first and then works comma by comma; a blank
behind a comma does not matter.

Which names a text lists is said once more without the reader: commas part a text without brackets
into places, and a place holds one name between blanks or blanks alone (`Lists`). A value is read as
exactly the names that it lists once its brackets are gone (`speakersOf_eq_iff`), so brackets may
stand anywhere, and what was read is read from its own line again (`speakersOf_normalised`).
-/

namespace Agenda

namespace Event

/-! ### Names between commas -/

/-- What a text needs to be a name in a list of speakers. -/
structure IsName (name : Text) : Prop where
  ne_nil : name ≠ []
  trim_eq : Text.trim name = name
  no_comma : ',' ∉ name
  no_open : '[' ∉ name
  no_close : ']' ∉ name

def withoutBrackets (t : Text) : Text := t.filter fun c => c ≠ '[' ∧ c ≠ ']'

theorem withoutBrackets_append (s t : Text) :
    withoutBrackets (s ++ t) = withoutBrackets s ++ withoutBrackets t := List.filter_append ..

theorem withoutBrackets_cons_bracket {c : Char} (h : c = '[' ∨ c = ']') (t : Text) :
    withoutBrackets (c :: t) = withoutBrackets t := by
  rcases h with rfl | rfl <;> rfl

theorem withoutBrackets_cons_of_not {c : Char} (h : ¬(c = '[' ∨ c = ']')) (t : Text) :
    withoutBrackets (c :: t) = c :: withoutBrackets t :=
  List.filter_cons_of_pos (decide_eq_true (not_or.mp h))

theorem withoutBrackets_eq_self_iff {t : Text} :
    withoutBrackets t = t ↔ '[' ∉ t ∧ ']' ∉ t := by
  rw [withoutBrackets, List.filter_eq_self]
  constructor
  · intro h
    exact ⟨fun hopen => (of_decide_eq_true (h _ hopen)).1 rfl,
      fun hclose => (of_decide_eq_true (h _ hclose)).2 rfl⟩
  · rintro ⟨hopen, hclose⟩ c hc
    exact decide_eq_true ⟨ne_of_mem_of_not_mem hc hopen, ne_of_mem_of_not_mem hc hclose⟩

def namesBetween (t : Text) : List Text := ((t.splitOn ',').map Text.trim).filter (· ≠ [])

theorem speakersOf_eq (value : Text) : speakersOf value = namesBetween (withoutBrackets value) :=
  rfl

theorem namesBetween_blank {place : Text} (h : Text.allBlank place = true) :
    namesBetween place = [] := by
  rw [namesBetween, List.splitOn_eq_singleton (Text.not_mem_of_allBlank h (by decide)),
    List.map_singleton, Text.trim_eq_nil_iff.mpr h]
  rfl

/-- A text without commas is one place. -/
theorem namesBetween_place {place : Text} (hcomma : ',' ∉ place) (hne : Text.trim place ≠ []) :
    namesBetween place = [Text.trim place] := by
  rw [namesBetween, List.splitOn_eq_singleton hcomma, List.map_singleton, List.filter_singleton]
  simp only [hne, ne_eq, not_false_eq_true, decide_true, cond_true]

theorem namesBetween_append_comma (before after : Text) :
    namesBetween (before ++ ',' :: after) = namesBetween before ++ namesBetween after := by
  rw [namesBetween, List.splitOn_append_cons_self, List.map_append, List.filter_append]
  rfl

/-- A blank in front of a list of names is trimmed off its first name. -/
theorem namesBetween_space (t : Text) : namesBetween (' ' :: t) = namesBetween t := by
  have hspace : ((' ' : Char) == ',') = false := by decide
  have hblank : Text.isBlank ' ' = true := by decide
  obtain ⟨first, rest, hsplit⟩ := List.exists_cons_of_ne_nil (List.splitOn_ne_nil ',' t)
  have hcons : (' ' :: t).splitOn ',' = (' ' :: first) :: rest := by
    rw [List.splitOn_cons_eq_if_modifyHead, hsplit, hspace]
    rfl
  rw [namesBetween, namesBetween, hcons, hsplit, List.map_cons, List.map_cons,
    Text.trim_cons_of_isBlank hblank]

theorem namesBetween_name {name : Text} (h : IsName name) : namesBetween name = [name] := by
  rw [namesBetween_place h.no_comma (h.trim_eq.symm ▸ h.ne_nil), h.trim_eq]

theorem namesBetween_join {names : List Text} (h : ∀ name ∈ names, IsName name) :
    namesBetween (Text.join ", " names) = names := by
  induction names with
  | nil => rfl
  | cons name rest ih =>
    have hname : IsName name := h name List.mem_cons_self
    have hrest := ih fun other hother => h other (List.mem_cons_of_mem _ hother)
    cases rest with
    | nil => rw [Text.join, List.intercalate_singleton, namesBetween_name hname]
    | cons next rest =>
      have hjoin : Text.join ", " (name :: next :: rest) =
          name ++ ',' :: ' ' :: Text.join ", " (next :: rest) := by
        rw [Text.join, List.intercalate_cons_cons, List.append_assoc]
        rfl
      rw [hjoin, namesBetween_append_comma, namesBetween_space, namesBetween_name hname, hrest,
        List.singleton_append]

/-- Every character of joined names is one of a name, a comma or a space. -/
theorem mem_join_names {names : List Text} {c : Char} (h : c ∈ Text.join ", " names) :
    c = ',' ∨ c = ' ' ∨ ∃ name ∈ names, c ∈ name := by
  induction names with
  | nil => cases h
  | cons name rest ih =>
    cases rest with
    | nil =>
      rw [Text.join, List.intercalate_singleton] at h
      exact .inr (.inr ⟨name, List.mem_cons_self, h⟩)
    | cons next rest =>
      rw [Text.join, List.intercalate_cons_cons, List.append_assoc, List.mem_append,
        List.mem_append] at h
      rcases h with hname | hmark | hrest
      · exact .inr (.inr ⟨name, List.mem_cons_self, hname⟩)
      · have hmarks : c = ',' ∨ c = ' ' := by simpa using hmark
        exact hmarks.imp_right .inl
      · rcases ih hrest with hcomma | hspace | ⟨other, hother, hc⟩
        · exact .inl hcomma
        · exact .inr (.inl hspace)
        · exact .inr (.inr ⟨other, List.mem_cons_of_mem _ hother, hc⟩)

theorem not_mem_join_names {names : List Text} {c : Char} (hcomma : c ≠ ',') (hspace : c ≠ ' ')
    (h : ∀ name ∈ names, c ∉ name) : c ∉ Text.join ", " names := by
  intro hmem
  rcases mem_join_names hmem with heq | heq | ⟨name, hname, hc⟩
  · exact hcomma heq
  · exact hspace heq
  · exact h name hname hc

/-- **Joined names are read as the names again.** -/
theorem speakersOf_join {names : List Text} (h : ∀ name ∈ names, IsName name) :
    speakersOf (Text.join ", " names) = names := by
  have hopen : '[' ∉ Text.join ", " names :=
    not_mem_join_names (by decide) (by decide) fun name hname => (h name hname).no_open
  have hclose : ']' ∉ Text.join ", " names :=
    not_mem_join_names (by decide) (by decide) fun name hname => (h name hname).no_close
  rw [speakersOf_eq, withoutBrackets_eq_self_iff.mpr ⟨hopen, hclose⟩, namesBetween_join h]

/-! ### Brackets -/

/-- A bracket put into a text at any place. -/
inductive BracketInserted : Text → Text → Prop
  | insert (before after : Text) {bracket : Char} : bracket = '[' ∨ bracket = ']' →
      BracketInserted (before ++ after) (before ++ bracket :: after)

/-- Texts of which one becomes the other by brackets that are put in and taken out. -/
def SameButBrackets (s t : Text) : Prop := Relation.EqvGen BracketInserted s t

namespace SameButBrackets

variable {s t : Text}

theorem withoutBrackets_eq (h : SameButBrackets s t) : withoutBrackets s = withoutBrackets t := by
  induction h with
  | rel _ _ hinserted =>
    obtain ⟨before, after, hbracket⟩ := hinserted
    rw [withoutBrackets_append, withoutBrackets_append, withoutBrackets_cons_bracket hbracket]
  | refl _ => rfl
  | symm _ _ _ ih => exact ih.symm
  | trans _ _ _ _ _ ih ih' => exact ih.trans ih'

theorem cons (c : Char) (h : SameButBrackets s t) : SameButBrackets (c :: s) (c :: t) := by
  induction h with
  | rel _ _ hinserted =>
    obtain ⟨before, after, hbracket⟩ := hinserted
    exact .rel _ _ (.insert (c :: before) after hbracket)
  | refl _ => exact .refl _
  | symm _ _ _ ih => exact .symm _ _ ih
  | trans _ _ _ _ _ ih ih' => exact .trans _ _ _ ih ih'

/-- The brackets of a text can be taken out one by one. -/
theorem to_withoutBrackets (t : Text) : SameButBrackets t (withoutBrackets t) := by
  induction t with
  | nil => exact .refl _
  | cons c rest ih =>
    by_cases hc : c = '[' ∨ c = ']'
    · -- The first bracket goes first, and what is left is the text of the induction.
      rw [withoutBrackets_cons_bracket hc]
      exact .trans _ _ _ (.symm _ _ (.rel _ _ (.insert [] rest hc))) ih
    · rw [withoutBrackets_cons_of_not hc]
      exact ih.cons c

/-- A text may stand between brackets. -/
theorem between (t : Text) : SameButBrackets t ('[' :: (t ++ [']'])) := by
  have hclose : BracketInserted (t ++ []) (t ++ [']']) := .insert t [] (.inr rfl)
  rw [List.append_nil] at hclose
  exact .trans _ _ _ (.rel _ _ hclose) (.rel _ _ (.insert [] _ (.inl rfl)))

end SameButBrackets

theorem sameButBrackets_iff {s t : Text} :
    SameButBrackets s t ↔ withoutBrackets s = withoutBrackets t := by
  refine ⟨SameButBrackets.withoutBrackets_eq, fun h => ?_⟩
  have hs := SameButBrackets.to_withoutBrackets s
  rw [h] at hs
  exact .trans _ _ _ hs (.symm _ _ (SameButBrackets.to_withoutBrackets t))

instance (s t : Text) : Decidable (SameButBrackets s t) :=
  decidable_of_iff _ sameButBrackets_iff.symm

/-- Brackets make no difference, wherever they stand. -/
theorem speakersOf_congr {s t : Text} (h : SameButBrackets s t) : speakersOf s = speakersOf t :=
  congrArg namesBetween h.withoutBrackets_eq

/-- **Joined names between brackets are read as the names again.** -/
theorem speakersOf_brackets {names : List Text} (h : ∀ name ∈ names, IsName name) :
    speakersOf ("[" ++ Text.join ", " names ++ "]") = names :=
  (speakersOf_congr (.between _)).symm.trans (speakersOf_join h)

/-! ### The names that a text lists -/

/-- How names stand in a text without brackets: commas part its places, and a place holds blanks
alone or one name between blanks. -/
inductive Lists : Text → List Text → Prop
  | blank {place : Text} : Text.allBlank place = true → Lists place []
  | name {front name behind : Text} : Text.allBlank front = true → Text.allBlank behind = true →
      IsName name → Lists (front ++ name ++ behind) [name]
  | comma {before after : Text} {names others : List Text} : Lists before names →
      Lists after others → Lists (before ++ ',' :: after) (names ++ others)

/-- A character that no reading may lose: neither a blank nor a mark of a list. -/
def isInk (c : Char) : Bool := !Text.isBlank c && c ≠ ',' && c ≠ '[' && c ≠ ']'

theorem filter_isInk_of_allBlank {t : Text} (h : Text.allBlank t = true) : t.filter isInk = [] := by
  rw [List.filter_eq_nil_iff]
  intro c hc
  have hblank : Text.isBlank c = true := List.all_eq_true.mp h c hc
  simp [isInk, hblank]

theorem filter_isInk_withoutBrackets (t : Text) :
    (withoutBrackets t).filter isInk = t.filter isInk := by
  rw [withoutBrackets, List.filter_filter]
  refine List.filter_congr fun c _ => ?_
  simp only [isInk, Bool.and_eq_left_iff_imp, Bool.and_eq_true, decide_eq_true_eq]
  exact fun hink => ⟨hink.1.2, hink.2⟩

namespace Lists

variable {t : Text} {names : List Text}

/-- The names are names, and made of what stands in the text. -/
theorem isName (h : Lists t names) : ∀ name ∈ names, IsName name ∧ name ⊆ t := by
  induction h with
  | blank _ => exact nofun
  | @name front name behind _ _ hname =>
    rw [List.forall_mem_singleton]
    exact ⟨hname, fun c hc => List.mem_append_left _ (List.mem_append_right _ hc)⟩
  | @comma before after _ _ _ _ ih ih' =>
    intro name hmem
    rcases List.mem_append.mp hmem with hname | hname
    · exact ⟨(ih name hname).1, fun c hc => List.mem_append_left _ ((ih name hname).2 hc)⟩
    · refine ⟨(ih' name hname).1, fun c hc => ?_⟩
      exact List.mem_append_right _ (List.mem_cons_of_mem _ ((ih' name hname).2 hc))

theorem no_bracket (h : Lists t names) : '[' ∉ t ∧ ']' ∉ t := by
  induction h with
  | blank hblank =>
    exact ⟨Text.not_mem_of_allBlank hblank (by decide), Text.not_mem_of_allBlank hblank (by decide)⟩
  | name hfront hbehind hname =>
    exact ⟨Text.not_mem_between_blanks hfront hbehind (by decide) hname.no_open,
      Text.not_mem_between_blanks hfront hbehind (by decide) hname.no_close⟩
  | comma _ _ ih ih' =>
    simp only [List.mem_append, List.mem_cons, not_or]
    exact ⟨⟨ih.1, by decide, ih'.1⟩, ih.2, by decide, ih'.2⟩

/-- Names and text have the same ink, in the same order. -/
theorem filter_isInk (h : Lists t names) : names.flatten.filter isInk = t.filter isInk := by
  induction h with
  | blank hblank => exact (filter_isInk_of_allBlank hblank).symm
  | name hfront hbehind _ =>
    rw [List.flatten_singleton, List.filter_append, List.filter_append,
      filter_isInk_of_allBlank hfront, filter_isInk_of_allBlank hbehind, List.nil_append,
      List.append_nil]
  | comma _ _ ih ih' =>
    rw [List.flatten_append, List.filter_append, List.filter_append, ih, ih',
      List.filter_cons_of_neg (by decide)]

/-- A text lists no more than one row of names. -/
theorem eq_namesBetween (h : Lists t names) : names = namesBetween t := by
  induction h with
  | blank hblank => exact (namesBetween_blank hblank).symm
  | @name front name behind hfront hbehind hname =>
    have hcomma : ',' ∉ front ++ name ++ behind :=
      Text.not_mem_between_blanks hfront hbehind (by decide) hname.no_comma
    have htrim : Text.trim (front ++ name ++ behind) = name :=
      (Text.trim_between_blanks hfront hbehind name).trans hname.trim_eq
    rw [namesBetween_place hcomma (htrim.symm ▸ hname.ne_nil), htrim]
  | comma _ _ ih ih' => rw [namesBetween_append_comma, ← ih, ← ih']

theorem of_place {place : Text} (hcomma : ',' ∉ place) (hopen : '[' ∉ place)
    (hclose : ']' ∉ place) : Lists place (namesBetween place) := by
  cases hblank : Text.allBlank place with
  | true =>
    rw [namesBetween_blank hblank]
    exact .blank hblank
  | false =>
    have hne : Text.trim place ≠ [] := Text.trim_ne_nil hblank
    have hpiece := (Text.trim_infix place).subset
    have hname : IsName (Text.trim place) := {
      ne_nil := hne
      trim_eq := Text.trim_trim place
      no_comma := fun hmem => hcomma (hpiece hmem)
      no_open := fun hmem => hopen (hpiece hmem)
      no_close := fun hmem => hclose (hpiece hmem) }
    obtain ⟨front, behind, hfront, hbehind, hplace⟩ := Text.exists_blanks_trim place
    have hlists := Lists.name hfront hbehind hname
    rwa [← hplace, ← namesBetween_place hcomma hne] at hlists

/-- A text without brackets lists the names between its commas. -/
theorem of_no_bracket (t : Text) (hopen : '[' ∉ t) (hclose : ']' ∉ t) :
    Lists t (namesBetween t) := by
  -- A comma parts the text into two shorter ones; without any it is a single place.
  by_cases hcomma : ',' ∈ t
  · obtain ⟨before, after, hparts⟩ := List.append_of_mem hcomma
    simp only [hparts, List.mem_append, List.mem_cons, not_or] at hopen hclose
    rw [hparts, namesBetween_append_comma]
    exact .comma (of_no_bracket before hopen.1 hclose.1) (of_no_bracket after hopen.2.2 hclose.2.2)
  · exact of_place hcomma hopen hclose
termination_by t.length
decreasing_by
  all_goals
    simp only [hparts, List.length_append, List.length_cons]
    omega

end Lists

theorem lists_speakersOf (value : Text) : Lists (withoutBrackets value) (speakersOf value) := by
  have hplain : withoutBrackets (withoutBrackets value) = withoutBrackets value :=
    (SameButBrackets.to_withoutBrackets value).withoutBrackets_eq.symm
  obtain ⟨hopen, hclose⟩ := withoutBrackets_eq_self_iff.mp hplain
  exact .of_no_bracket _ hopen hclose

/-- **A value is read as the names that it lists without its brackets**, and as no others. -/
theorem speakersOf_eq_iff {value : Text} {names : List Text} :
    speakersOf value = names ↔ ∃ plain, SameButBrackets value plain ∧ Lists plain names := by
  constructor
  · rintro rfl
    exact ⟨withoutBrackets value, .to_withoutBrackets value, lists_speakersOf value⟩
  · rintro ⟨plain, hsame, hlists⟩
    have hplain : withoutBrackets plain = plain := withoutBrackets_eq_self_iff.mpr hlists.no_bracket
    rw [speakersOf_congr hsame, speakersOf_eq, hplain, hlists.eq_namesBetween]

/-- Every name that is read is a name, made of characters of the value. -/
theorem mem_speakersOf {value name : Text} (h : name ∈ speakersOf value) :
    IsName name ∧ name ⊆ value := by
  obtain ⟨hname, hsubset⟩ := (lists_speakersOf value).isName name h
  exact ⟨hname, List.Subset.trans hsubset (List.filter_subset_self value)⟩

/-- **Reading a list of speakers brings it into its normal form.** Whatever stands in the value, its
names are trimmed texts without marks. They are what the value lists once its brackets are gone, so
that they come in its order and nothing is lost but blanks and marks. Brackets may be put in and
taken out anywhere, and the line that shows the names is read as the same names, with brackets
around it or without. -/
theorem speakersOf_normalised (value : Text) :
    (∀ name ∈ speakersOf value,
        name ≠ [] ∧ Text.trim name = name ∧ ',' ∉ name ∧ '[' ∉ name ∧ ']' ∉ name) ∧
      (∃ plain, SameButBrackets value plain ∧ Lists plain (speakersOf value)) ∧
      (speakersOf value).flatten.filter isInk = value.filter isInk ∧
      (∀ other, SameButBrackets value other → speakersOf other = speakersOf value) ∧
      ∀ event : Event, event.speakers = speakersOf value →
        speakersOf event.speakerLine = event.speakers ∧
          speakersOf ("[" ++ event.speakerLine ++ "]") = event.speakers := by
  have hnames : ∀ name ∈ speakersOf value, IsName name := fun name hname => (mem_speakersOf hname).1
  refine ⟨?_, speakersOf_eq_iff.mp rfl, ?_, ?_, ?_⟩
  · intro name hmem
    obtain ⟨hne, htrim, hcomma, hopen, hclose⟩ := hnames name hmem
    exact ⟨hne, htrim, hcomma, hopen, hclose⟩
  · rw [(lists_speakersOf value).filter_isInk, filter_isInk_withoutBrackets]
  · intro other hsame
    exact (speakersOf_congr hsame).symm
  · intro event hspeakers
    rw [← hspeakers] at hnames
    exact ⟨speakersOf_join hnames, speakersOf_brackets hnames⟩

/-- Brackets inside of names, places without a name, and a blank inside of a name. -/
def scatteredNames : Text := " [Zo\u00e9 ,, A]nna[\u00a0Lee]\t,"

/-- A talk of the two speakers whose names these are. -/
def jointTalk : Event where
  kind := .talk
  title := untitled
  start := ⟨⟨738951, by decide⟩, 601, by decide⟩
  duration := 50
  description := none
  language := none
  speakers := ["Zo\u00e9", "Anna\u00a0Lee"]
  end_lt := by decide

theorem speakersOf_normalised_scattered :
    jointTalk.speakers = speakersOf scatteredNames ∧
      (("Anna\u00a0Lee" : Text) ∈ speakersOf scatteredNames ∧ ',' ∉ ("Anna\u00a0Lee" : Text)) ∧
      (SameButBrackets scatteredNames "[ Zo\u00e9 ,, Anna\u00a0Lee\t,]" ∧
        speakersOf "[ Zo\u00e9 ,, Anna\u00a0Lee\t,]" = jointTalk.speakers) ∧
      speakersOf jointTalk.speakerLine = jointTalk.speakers ∧
      speakersOf ("[" ++ jointTalk.speakerLine ++ "]") = jointTalk.speakers := by
  have hspeakers : jointTalk.speakers = speakersOf scatteredNames := by decide
  have hmem : ("Anna\u00a0Lee" : Text) ∈ speakersOf scatteredNames := by decide
  have hsame : SameButBrackets scatteredNames "[ Zo\u00e9 ,, Anna\u00a0Lee\t,]" := by decide
  obtain ⟨hnames, -, -, hother, hlines⟩ := speakersOf_normalised scatteredNames
  obtain ⟨-, -, hcomma, -, -⟩ := hnames _ hmem
  exact ⟨hspeakers, ⟨hmem, hcomma⟩, ⟨hsame, (hother _ hsame).trans hspeakers.symm⟩,
    hlines jointTalk hspeakers⟩

end Event

end Agenda
