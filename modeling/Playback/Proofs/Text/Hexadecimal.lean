import Playback.Text.Hexadecimal
import Mathlib.Data.List.Basic

/-!
# Hexadecimal numerals stand for their numbers

A hexadecimal numeral has digits only, at least one, and no more than its number needs.  It is
read as the number it was made from.
-/

namespace Playback.Text

variable {c : Char}

theorem hexDigit?_digitChar {digit : Nat} (small : digit < 16) :
    hexDigit? digit.digitChar = some digit := by
  have digits : ∀ digit < 16, hexDigit? digit.digitChar = some digit := by decide
  exact digits digit small

/-- Every decimal digit is a hexadecimal one. -/
theorem isSome_hexDigit?_of_isDigit (digit : c.isDigit = true) : (hexDigit? c).isSome = true := by
  rw [hexDigit?, if_pos digit]
  rfl

/-- Hexadecimal digits lie between the zero and the small f. -/
theorem toNat_bounds_of_isSome (digit : (hexDigit? c).isSome = true) :
    48 ≤ c.toNat ∧ c.toNat ≤ 102 := by
  unfold hexDigit? at digit
  split at digit
  case isTrue decimal =>
    simp only [Char.isDigit, Bool.and_eq_true, decide_eq_true_eq, ge_iff_le,
      UInt32.le_iff_toNat_le] at decimal
    have bounds : 48 ≤ c.toNat ∧ c.toNat ≤ 57 := decimal
    omega
  case isFalse =>
    split at digit
    case isTrue small =>
      simp only [Bool.and_eq_true, decide_eq_true_eq, Char.le_def, UInt32.le_iff_toNat_le] at small
      have bounds : 97 ≤ c.toNat ∧ c.toNat ≤ 102 := small
      omega
    case isFalse =>
      split at digit
      case isTrue large =>
        simp only [Bool.and_eq_true, decide_eq_true_eq, Char.le_def, UInt32.le_iff_toNat_le]
          at large
        have bounds : 65 ≤ c.toNat ∧ c.toNat ≤ 70 := large
        omega
      case isFalse => cases digit

theorem hexNumeral_ne_nil (number : Nat) : hexNumeral number ≠ [] :=
  Nat.toDigits_ne_nil

theorem length_hexNumeral_le {number width : Nat} (positive : 0 < width)
    (below : number < Nat.pow 16 width) : (hexNumeral number).length ≤ width :=
  (Nat.length_toDigits_le_iff (by decide) positive).mpr below

/-- The digits of a numeral, read one by one, make up its number. -/
theorem exists_mapM_hexNumeral (number : Nat) :
    ∃ digits, (hexNumeral number).mapM hexDigit? = some digits ∧
      valueInBase 16 digits = number := by
  induction number using Nat.base_induction 16 (by decide) with
  | single digit small =>
      refine ⟨[digit], ?_, Nat.zero_add digit⟩
      rw [hexNumeral, Nat.toDigits_of_lt_base small, List.mapM_cons, hexDigit?_digitChar small]
      rfl
  | digit front last small positive induction =>
      obtain ⟨digits, read, value⟩ := induction
      have written : hexNumeral (16 * front + last) = hexNumeral front ++ [last.digitChar] := by
        rw [hexNumeral, ← Nat.toDigits_append_toDigits (by decide) positive small,
          Nat.toDigits_of_lt_base small]
        rfl
      refine ⟨digits ++ [last], ?_, ?_⟩
      · rw [written, List.mapM_append, read, List.mapM_cons, hexDigit?_digitChar small]
        rfl
      · rw [valueInBase, List.foldl_append, ← valueInBase, value]
        rfl

theorem hexValue?_hexNumeral (number : Nat) : hexValue? (hexNumeral number) = some number := by
  obtain ⟨digits, read, value⟩ := exists_mapM_hexNumeral number
  rw [hexValue?, read, Option.map_some, value]

/-- A text with a hexadecimal value has hexadecimal digits only. -/
theorem isSome_hexDigit?_of_mapM {text : List Char} {digits : List Nat}
    (read : text.mapM hexDigit? = some digits) : ∀ c ∈ text, (hexDigit? c).isSome = true := by
  induction text generalizing digits with
  | nil => exact List.forall_mem_nil _
  | cons first rest induction =>
      rw [List.mapM_cons] at read
      obtain ⟨digit, readFirst, readRest⟩ := Option.bind_eq_some_iff.mp read
      obtain ⟨others, readOthers, _⟩ := Option.bind_eq_some_iff.mp readRest
      refine List.forall_mem_cons.mpr ⟨?_, induction readOthers⟩
      rw [readFirst]
      rfl

theorem isSome_hexDigit?_of_mem_hexNumeral {number : Nat} (member : c ∈ hexNumeral number) :
    (hexDigit? c).isSome = true := by
  obtain ⟨digits, read, _⟩ := exists_mapM_hexNumeral number
  exact isSome_hexDigit?_of_mapM read c member

end Playback.Text
