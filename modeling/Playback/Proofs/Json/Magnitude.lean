import Playback.Json.Magnitude
import Playback.Proofs.Text.Numeral

/-!
# Numbers of 64 bits are in range

No digit of a number that fits 64 bits is left out of its leading digits, and rounding at most
doubles a number.  So nothing that fits 64 bits comes anywhere near the largest finite
floating-point number.
-/

namespace Playback.Json

open Text (digitsValue maxWord numeral)

/-- Digits stand for no less than the number that they go on from. -/
theorem le_ofDigitChars (digits : List Char) (significand : Nat) :
    significand ≤ Nat.ofDigitChars 10 digits significand := by
  rw [Nat.ofDigitChars_eq_ofDigitChars_zero]
  have scaled : significand ≤ 10 ^ digits.length * significand :=
    Nat.le_mul_of_pos_left significand (Nat.pow_pos (by decide))
  exact Nat.le_trans scaled (Nat.le_add_right _ _)

/-- The digits of a number that fits 64 bits are all leading digits. -/
theorem leadingDigits_of_fits {significand : Nat} {digits : List Char}
    (fits : Nat.ofDigitChars 10 digits significand ≤ maxWord) :
    leadingDigits significand digits = (Nat.ofDigitChars 10 digits significand, 0) := by
  induction digits generalizing significand with
  | nil => rfl
  | cons digit rest induction =>
      have next : 10 * significand + digitsValue [digit] =
          10 * significand + (digit.toNat - '0'.toNat) := by
        rw [digitsValue, Nat.ofDigitChars_cons, Nat.ofDigitChars_nil, Nat.mul_zero, Nat.zero_add]
      rw [Nat.ofDigitChars_cons] at fits ⊢
      have below : ¬maxWord < 10 * significand + (digit.toNat - '0'.toNat) :=
        Nat.not_lt.mpr (Nat.le_trans (le_ofDigitChars rest _) fits)
      rw [leadingDigits, next, if_neg below, induction fits]

/-- Rounding to 53 binary digits at most doubles a number. -/
theorem nearestFloat_le {number : Nat} (positive : number ≠ 0) :
    nearestFloat number ≤ 2 * number := by
  have unit_le : Nat.pow 2 (number.log2 + 1 - 53) ≤ number :=
    calc
      Nat.pow 2 (number.log2 + 1 - 53) ≤ 2 ^ number.log2 :=
        Nat.pow_le_pow_right (by decide) (by omega)
      _ ≤ number := Nat.log2_self_le positive
  have floor_le :
      number / Nat.pow 2 (number.log2 + 1 - 53) * Nat.pow 2 (number.log2 + 1 - 53) ≤ number :=
    Nat.div_mul_le_self number _
  rw [nearestFloat]
  split
  · rw [Nat.add_mul, Nat.one_mul]
    omega
  · omega

/-- The digits of a number that fits 64 bits are in range, with a minus sign or without. -/
theorem inRange_numeral (negative : Bool) {number : Nat} (fits : number ≤ maxWord) :
    Literal.inRange
      { negative, whole := numeral number, fraction := [], exponent := none } = true := by
  have leading : leadingDigits 0 (numeral number ++ []) = (number, 0) := by
    have value : Nat.ofDigitChars 10 (numeral number) 0 = number := Text.digitsValue_numeral number
    rw [List.append_nil, leadingDigits_of_fits (value.symm ▸ fits), value]
  have one : nearestFloat (Nat.pow 10 0) = 1 := by decide
  have bound : 2 * maxWord < Text.overflowBound := by decide +kernel
  rw [Literal.inRange, leading]
  by_cases zero : number = 0
  · rw [zero]
    rfl
  · have rounded := nearestFloat_le zero
    have below : nearestFloat number * nearestFloat (Nat.pow 10 0) < Text.overflowBound := by
      rw [one]
      omega
    -- No digit is skipped and none is behind a point, so nothing scales the leading digits.
    have scale : ((0 : Nat) : Int) - (([] : List Char).length : Int) + exponentValue none = 0 :=
      rfl
    dsimp only
    rw [scale, Int.toNat_zero, decide_eq_true below, decide_eq_true (by decide : (0 : Int) ≤ 308),
      Bool.and_self, Bool.or_true]

end Playback.Json
