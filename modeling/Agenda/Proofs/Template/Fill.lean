import Agenda.Proofs.Text.Numeral
import Agenda.Proofs.Text.Substitute
import Agenda.Render.Booklet
import Mathlib.Data.List.Find

/-!
# Filling several keys

Keys are filled one after the other, each in the text that the ones before it left. That the first
key without a placeholder is at fault then speaks about the template itself only because no filling
makes or destroys a placeholder of a later key (`fillAll_of_separate`). The keys of a booklet are of
that kind, whatever its days are (`Booklet.separate_bindings`).
-/

namespace Agenda

namespace Template

/-- The first one of some keys that has no placeholder in a template. -/
def missingKey? (template : Text) (keys : List Text) : Option Text :=
  keys.find? fun key => !Text.occursIn (placeholder key) template

/-- The template with every key filled, whether it has a placeholder or not. -/
def filled (template : Text) (bindings : List (Text × Text)) : Text :=
  bindings.foldl (fun t binding => Text.replaceAll (placeholder binding.1) binding.2 t) template

/-- The filled template, or the fault that the first key without a placeholder is. -/
def filledOrMissing (template : Text) (bindings : List (Text × Text)) : Except Fault Text :=
  match missingKey? template (bindings.map Prod.fst) with
  | some key => .error (.missingPlaceholder (placeholder key))
  | none => .ok (filled template bindings)

/-- Whether the placeholders of later keys lie apart from the placeholder and from the value of
every key. -/
def Separate (bindings : List (Text × Text)) : Prop :=
  bindings.Pairwise fun binding later =>
    Text.Apart (placeholder later.1) (placeholder binding.1) ∧
      Text.Apart (placeholder later.1) binding.2

variable {template key value : Text}

theorem placeholder_ne_nil (key : Text) : placeholder key ≠ [] := List.cons_ne_nil _ _

theorem missingKey?_cons_of_occursIn (h : Text.occursIn (placeholder key) template = true)
    (keys : List Text) : missingKey? template (key :: keys) = missingKey? template keys := by
  rw [missingKey?, List.find?_cons, h]
  rfl

theorem missingKey?_cons_of_not_occursIn (h : Text.occursIn (placeholder key) template = false)
    (keys : List Text) : missingKey? template (key :: keys) = some key := by
  rw [missingKey?, List.find?_cons, h]
  rfl

/-- Filling a key leaves it as it was which of some other keys is missing. -/
theorem missingKey?_replaceAll {keys : List Text}
    (h : ∀ later ∈ keys, Text.Apart (placeholder later) (placeholder key) ∧
      Text.Apart (placeholder later) value) (template : Text) :
    missingKey? (Text.replaceAll (placeholder key) value template) keys =
      missingKey? template keys := by
  refine List.find?_congr fun later hlater => ?_
  obtain ⟨hkey, hvalue⟩ := h later hlater
  rw [Text.occursIn_replaceAll (placeholder_ne_nil key) hkey hvalue]

/-- **Filling fails for the first key that the template has no placeholder for**, and else puts in
all values. -/
theorem fillAll_of_separate {bindings : List (Text × Text)} (h : Separate bindings)
    (template : Text) :
    fillAll template bindings = filledOrMissing template bindings := by
  induction bindings generalizing template with
  | nil => rfl
  | cons binding rest ih =>
    obtain ⟨hlater, hrest⟩ := List.pairwise_cons.mp h
    rw [fillAll, fill, filledOrMissing, List.map_cons]
    cases hoccurs : Text.occursIn (placeholder binding.1) template with
    | false =>
      rw [missingKey?_cons_of_not_occursIn hoccurs]
      rfl
    | true =>
      have hapart : ∀ later ∈ rest.map Prod.fst,
          Text.Apart (placeholder later) (placeholder binding.1) ∧
            Text.Apart (placeholder later) binding.2 := by
        intro key hkey
        obtain ⟨later, hmem, rfl⟩ := List.mem_map.mp hkey
        exact hlater later hmem
      rw [missingKey?_cons_of_occursIn hoccurs, ← missingKey?_replaceAll hapart template]
      exact ih hrest _

/-- Filling a single key. -/
theorem fill_eq (template key value : Text) :
    fill template key value = filledOrMissing template [(key, value)] := by
  have hfill : fillAll template [(key, value)] = fill template key value := by
    rw [fillAll]
    cases fill template key value <;> rfl
  rw [← hfill]
  exact fillAll_of_separate (List.pairwise_singleton _ _) template

end Template

/-! ### Headings -/

namespace Day

/-- The characters of a list of texts, and nothing if the place is behind its end. -/
theorem mem_getD {c : Char} {names : List Text} {i : Nat} (h : c ∈ names.getD i []) :
    c ∈ names.flatten := by
  rw [List.getD_eq_getElem?_getD] at h
  cases hname : names[i]? with
  | none =>
    rw [hname] at h
    cases h
  | some name =>
    rw [hname] at h
    exact List.mem_flatten.mpr ⟨name, List.mem_of_getElem? hname, h⟩

theorem comma_mem_heading (day : Day) : ',' ∈ day.heading := by
  simp [heading]

/-- A heading is made of the names of days and months, of digits and of what stands between them. -/
theorem forall_mem_heading {p : Char → Bool}
    (hnames : (weekdayNames.flatten ++ ", ".toList ++ monthNames.flatten ++ " ".toList).all p = true)
    (hdigits : ∀ c, Text.isDigit c = true → p c = true) (day : Day) :
    ∀ c ∈ day.heading, p c = true := by
  simp only [List.all_eq_true, List.mem_append] at hnames
  intro c hc
  simp only [heading, List.mem_append] at hc
  rcases hc with ((((hweekday | hcomma) | hmonth) | hspace) | hday)
  · exact hnames c (.inl (.inl (.inl (mem_getD hweekday))))
  · exact hnames c (.inl (.inl (.inr hcomma)))
  · exact hnames c (.inl (.inr (mem_getD hmonth)))
  · exact hnames c (.inr hspace)
  · exact hdigits c (Text.isDigit_of_mem_ofNat hday)

/-- A heading has no braces. -/
theorem brace_not_mem_heading (day : Day) : ∀ c ∈ day.heading, c ≠ '\x7b' ∧ c ≠ '\x7d' := by
  have hplain : ∀ c ∈ day.heading, (c != '\x7b' && c != '\x7d') = true := by
    refine forall_mem_heading (by decide) (fun c hdigit => ?_) day
    rw [Bool.and_eq_true, bne_iff_ne, bne_iff_ne]
    constructor
    · rintro rfl
      exact absurd hdigit (by decide)
    · rintro rfl
      exact absurd hdigit (by decide)
  simpa only [Bool.and_eq_true, bne_iff_ne] using hplain

/-- A heading lies apart from the placeholder of every key without a comma. -/
theorem apart_heading {key : Text} (h : ',' ∉ key) (day : Day) :
    Text.Apart (Template.placeholder key) day.heading := by
  have hend : (Template.placeholder key).getLast? = some '\x7d' := by
    rw [Template.placeholder, List.getLast?_append]
    rfl
  refine Text.apart_of_not_mem rfl hend (fun hc => (brace_not_mem_heading day _ hc).1 rfl)
    (fun hc => (brace_not_mem_heading day _ hc).2 rfl) (comma_mem_heading day) ?_
  simp [Template.placeholder, h]

end Day

/-- **The keys of a booklet do not disturb each other**, whatever its days are. -/
theorem Booklet.separate_bindings (timetable : Timetable) :
    Template.Separate (bindings timetable) := by
  have hend : Text.Apart (Template.placeholder "END_DATE") (Template.placeholder "BEGIN_DATE") := by
    decide
  have habstracts :
      Text.Apart (Template.placeholder "ABSTRACTS") (Template.placeholder "BEGIN_DATE") ∧
        Text.Apart (Template.placeholder "ABSTRACTS") (Template.placeholder "END_DATE") := by
    decide
  have hheading : ∀ day, Text.Apart (Template.placeholder "END_DATE") (Day.heading day) ∧
      Text.Apart (Template.placeholder "ABSTRACTS") (Day.heading day) :=
    fun day => ⟨Day.apart_heading (by decide) day, Day.apart_heading (by decide) day⟩
  simp only [Template.Separate, bindings, List.pairwise_cons, List.forall_mem_cons]
  exact ⟨⟨⟨hend, (hheading _).1⟩, ⟨habstracts.1, (hheading _).2⟩, nofun⟩,
    ⟨⟨habstracts.2, (hheading _).2⟩, nofun⟩, nofun, List.Pairwise.nil⟩

end Agenda
