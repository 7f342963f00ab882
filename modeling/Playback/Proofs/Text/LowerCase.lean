import Playback.Proofs.Text.Blank
import Playback.Text.LowerCase

/-!
# What lower-casing keeps

Only a capital sigma is lower-cased by what stands around it, and it always leaves a small sigma of
one of the two forms.  A text without one is lower-cased character by character, so it can
be lower-cased in parts.  Blanks are their own small forms.
-/

namespace Playback.Text

variable {text before after : List Char} {c : Char}

/-- The code points of all blanks. -/
def blankCodes : List Nat :=
  List.range' 0x9 5 ++ [0x20, 0x85, 0xA0, 0x1680] ++ List.range' 0x2000 11 ++
    [0x2028, 0x2029, 0x202F, 0x205F, 0x3000]

theorem toNat_mem_blankCodes (blank : isBlank c = true) : c.toNat ∈ blankCodes := by
  simp only [isBlank, Bool.or_eq_true, Bool.and_eq_true, decide_eq_true_eq, beq_iff_eq] at blank
  simp only [blankCodes, List.mem_append, List.mem_range'_1, List.mem_cons, List.not_mem_nil,
    or_false]
  omega

theorem lowerChar_of_isBlank (blank : isBlank c = true) : lowerChar c = [c] := by
  have each : ∀ code ∈ blankCodes, lowerChar (Char.ofNat code) = [Char.ofNat code] := by
    decide +kernel
  have here := each c.toNat (toNat_mem_blankCodes blank)
  rwa [Char.ofNat_toNat] at here

theorem exists_sigma_mem_lowerFrom (member : 'Σ' ∈ text) (before : List Char) :
    'σ' ∈ lowerFrom before text ∨ 'ς' ∈ lowerFrom before text := by
  induction text generalizing before with
  | nil => cases member
  | cons c rest induction =>
      rw [lowerFrom]
      rcases List.mem_cons.mp member with rfl | later
      · rw [if_pos rfl]
        split
        case isTrue => exact Or.inr (List.mem_append_left _ List.mem_cons_self)
        case isFalse => exact Or.inl (List.mem_append_left _ List.mem_cons_self)
      · exact (induction later (c :: before)).imp (List.mem_append_right _)
          (List.mem_append_right _)

/-- A text that leaves no small sigma has no capital one. -/
theorem sigma_not_mem (plain : 'σ' ∉ lower text) (plainAtEnd : 'ς' ∉ lower text) : 'Σ' ∉ text :=
  fun member => (exists_sigma_mem_lowerFrom member []).elim plain plainAtEnd

theorem lowerFrom_eq_flatMap (plain : 'Σ' ∉ text) (before : List Char) :
    lowerFrom before text = text.flatMap lowerChar := by
  induction text generalizing before with
  | nil => rfl
  | cons c rest induction =>
      have different : c ≠ 'Σ' := fun same => plain (same ▸ List.mem_cons_self)
      have others : 'Σ' ∉ rest := fun later => plain (List.mem_cons_of_mem c later)
      rw [lowerFrom, if_neg different, induction others, List.flatMap_cons]

/-- A text without a capital sigma is lower-cased character by character. -/
theorem lower_eq_flatMap (plain : 'Σ' ∉ text) : lower text = text.flatMap lowerChar :=
  lowerFrom_eq_flatMap plain []

theorem lower_append_cons (blank : isBlank c = true) (plain : 'Σ' ∉ before ++ c :: after) :
    lower (before ++ c :: after) = lower before ++ c :: lower after := by
  have plainBefore : 'Σ' ∉ before := fun member => plain (List.mem_append_left _ member)
  have plainAfter : 'Σ' ∉ after := fun member =>
    plain (List.mem_append_right _ (List.mem_cons_of_mem c member))
  rw [lower_eq_flatMap plain, lower_eq_flatMap plainBefore, lower_eq_flatMap plainAfter,
    List.flatMap_append, List.flatMap_cons, lowerChar_of_isBlank blank, List.singleton_append]

theorem mem_lower_of_isBlank (plain : 'Σ' ∉ text) (blank : isBlank c = true) (member : c ∈ text) :
    c ∈ lower text := by
  rw [lower_eq_flatMap plain]
  refine List.mem_flatMap.mpr ⟨c, member, ?_⟩
  rw [lowerChar_of_isBlank blank]
  exact List.mem_cons_self

/-- A small character that comes neither from a blank nor from a capital sigma. -/
def Ordinary (c : Char) : Prop :=
  isBlank c = false ∧ c ≠ 'σ' ∧ c ≠ 'ς'

instance : DecidablePred Ordinary :=
  fun c => inferInstanceAs (Decidable (isBlank c = false ∧ c ≠ 'σ' ∧ c ≠ 'ς'))

/-- A text with an ordinary small form has neither blanks nor capital sigmas. -/
theorem plain_of_lower (ordinary : ∀ c ∈ lower text, Ordinary c) :
    'Σ' ∉ text ∧ ∀ c ∈ text, isBlank c = false := by
  have noSigma : 'Σ' ∉ text :=
    sigma_not_mem (fun member => (ordinary _ member).2.1 rfl)
      fun member => (ordinary _ member).2.2 rfl
  refine ⟨noSigma, fun c member => ?_⟩
  cases blank : isBlank c with
  | false => rfl
  | true => exact blank.symm.trans (ordinary c (mem_lower_of_isBlank noSigma blank member)).1

end Playback.Text
