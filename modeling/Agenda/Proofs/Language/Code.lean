import Agenda.Language.Basic
import Agenda.Proofs.Text.Trim

/-!
# Codes of languages

A code of two small letters is changed neither by trimming nor by lowering, so that it has the
language that the table holds for it (`Language.ofCode?_of_isCode`). A lawful table holds its
languages for their own codes (`Language.IsHeld.isKnown`), hence each of them is found by its own
code.
-/

namespace Agenda

namespace Language

/-! ### Letters -/

theorem smallLetters_spec : ∀ k < 26, Text.lowerChar (Char.ofNat (97 + k)) = [Char.ofNat (97 + k)] ∧
    isLetter (Char.ofNat (97 + k)) = true ∧ Text.isBlank (Char.ofNat (97 + k)) = false := by
  decide +kernel

theorem bigLetters_spec : ∀ k < 26,
    (Text.lowerChar (Char.ofNat (65 + k))).map isSmall = [true] := by
  decide +kernel

theorem ofNat_sub_add {c : Char} {low high : Nat} (hlow : low ≤ c.toNat) (hhigh : c.toNat ≤ high) :
    c.toNat - low < high + 1 - low ∧ Char.ofNat (low + (c.toNat - low)) = c := by
  refine ⟨by omega, ?_⟩
  rw [Nat.add_sub_cancel' hlow, Char.ofNat_toNat]

theorem isSmall_iff {c : Char} : isSmall c = true ↔ 97 ≤ c.toNat ∧ c.toNat ≤ 122 := by
  simp only [isSmall, Bool.and_eq_true, decide_eq_true_eq, Char.le_def, UInt32.le_iff_toNat_le]
  exact Iff.rfl

theorem isLetter_iff {c : Char} :
    isLetter c = true ↔ isSmall c = true ∨ 65 ≤ c.toNat ∧ c.toNat ≤ 90 := by
  simp only [isLetter, isSmall, Bool.or_eq_true, Bool.and_eq_true, decide_eq_true_eq, Char.le_def,
    UInt32.le_iff_toNat_le]
  exact Iff.rfl

/-- What every small letter is, found by looking at all of them. -/
theorem isSmall_spec {c : Char} (h : isSmall c = true) :
    Text.lowerChar c = [c] ∧ isLetter c = true ∧ Text.isBlank c = false := by
  obtain ⟨hlow, hhigh⟩ := isSmall_iff.mp h
  obtain ⟨hlt, hc⟩ := ofNat_sub_add hlow hhigh
  have hspec := smallLetters_spec _ hlt
  rwa [hc] at hspec

/-- A letter of either case is lowered to one small letter. -/
theorem exists_lowerChar {c : Char} (h : isLetter c = true) :
    ∃ d, Text.lowerChar c = [d] ∧ isSmall d = true := by
  obtain hsmall | ⟨hlow, hhigh⟩ := isLetter_iff.mp h
  · exact ⟨c, (isSmall_spec hsmall).1, hsmall⟩
  · obtain ⟨hlt, hc⟩ := ofNat_sub_add hlow hhigh
    have hspec := bigLetters_spec _ hlt
    rw [hc] at hspec
    obtain ⟨d, rest, heq, hsmall, hrest⟩ := List.map_eq_cons_iff.mp hspec
    rw [List.map_eq_nil_iff.mp hrest] at heq
    exact ⟨d, heq, hsmall⟩

theorem lower_of_isSmall {t : Text} (h : ∀ c ∈ t, isSmall c = true) : Text.lower t = t := by
  induction t with
  | nil => rfl
  | cons c rest ih =>
    have hc := (isSmall_spec (h c List.mem_cons_self)).1
    have hrest := ih fun d hd => h d (List.mem_cons_of_mem _ hd)
    rw [Text.lower, List.flatMap_cons, hc]
    exact congrArg (c :: ·) hrest

theorem lower_of_isLetter {t : Text} (h : ∀ c ∈ t, isLetter c = true) :
    (Text.lower t).length = t.length ∧ ∀ c ∈ Text.lower t, isSmall c = true := by
  induction t with
  | nil => exact ⟨rfl, nofun⟩
  | cons c rest ih =>
    obtain ⟨hlength, hsmall⟩ := ih fun d hd => h d (List.mem_cons_of_mem _ hd)
    obtain ⟨d, hd, hdsmall⟩ := exists_lowerChar (h c List.mem_cons_self)
    have hlower : Text.lower (c :: rest) = d :: Text.lower rest := by
      rw [Text.lower, List.flatMap_cons, hd]
      rfl
    rw [hlower]
    exact ⟨congrArg (· + 1) hlength, List.forall_mem_cons.mpr ⟨hdsmall, hsmall⟩⟩

/-! ### Codes -/

variable {code : Text} {language : Language}

theorem IsCode.trim (h : IsCode code) : Text.trim code = code :=
  Text.trim_of_forall fun c hc => (isSmall_spec (h.2 c hc)).2.2

/-- Two letters between blanks are lowered to a code. -/
theorem isCode_lower (hlength : code.length = 2) (hletters : ∀ c ∈ code, isLetter c = true) :
    IsCode (Text.lower code) := by
  obtain ⟨hlower, hsmall⟩ := lower_of_isLetter hletters
  exact ⟨hlower.trans hlength, hsmall⟩

variable [languages : Languages]

/-- **A code has the language that the table holds for it.** -/
theorem ofCode?_of_isCode (h : IsCode code) : ofCode? code = Languages.find? code := by
  have hletters : code.all isLetter = true :=
    List.all_eq_true.mpr fun c hc => (isSmall_spec (h.2 c hc)).2.1
  simp only [ofCode?, h.trim, h.1, hletters, and_self, if_true, lower_of_isSmall h.2]

/-- The language of a code is the one that the table holds for the code in small letters, if the
code is made of two letters. -/
theorem ofCode?_eq_some_iff :
    ofCode? code = some language ↔ (Text.trim code).length = 2 ∧
      (∀ c ∈ Text.trim code, isLetter c) ∧
      Languages.find? (Text.lower (Text.trim code)) = some language := by
  rw [ofCode?]
  split
  · rename_i hletters
    exact ⟨fun hfind => ⟨hletters.1, List.all_eq_true.mp hletters.2, hfind⟩, fun h => h.2.2⟩
  · rename_i hletters
    refine iff_of_false (Option.some_ne_none language).symm ?_
    rintro ⟨hlength, hall, -⟩
    exact hletters ⟨hlength, List.all_eq_true.mpr hall⟩

/-- The languages that are read are those that the table holds for a code. -/
theorem isHeld_of_ofCode? (h : ofCode? code = some language) : language.IsHeld := by
  obtain ⟨hlength, hletters, hfind⟩ := ofCode?_eq_some_iff.mp h
  exact ⟨_, isCode_lower hlength hletters, hfind⟩

/-- Whether the table holds a language for its own code. -/
def IsKnown (language : Language) : Prop :=
  IsCode language.alpha2 ∧ Languages.find? language.alpha2 = some language

/-- **A lawful table holds its languages for their own codes.** -/
theorem IsHeld.isKnown (h : language.IsHeld) (hlaw : languages.IsLawful) : language.IsKnown := by
  obtain ⟨code, hcode, hfind⟩ := h
  rw [IsKnown, hlaw code language hcode hfind]
  exact ⟨hcode, hfind⟩

theorem IsKnown.ofCode? (h : language.IsKnown) : Language.ofCode? language.alpha2 = some language :=
  (ofCode?_of_isCode h.1).trans h.2

end Language

/-! ### A table of one language -/

def Language.french : Language := ⟨"fr", "fra", "French"⟩

@[reducible]
def Languages.french : Languages := ⟨fun code => if code = "fr".toList then some .french else none⟩

theorem Languages.isLawful_french : Languages.french.IsLawful := by
  intro code language _ hfind
  change (if code = "fr".toList then some Language.french else none) = some language at hfind
  split at hfind
  · rename_i hcode
    rw [← Option.some.inj hfind, hcode]
    rfl
  · cases hfind

end Agenda
