import Mathlib.Data.List.TakeWhile
import Playback.Text.Numeral

/-!
# Numerals stand for their numbers

A numeral is a nonempty list of digits, it does not begin with a zero unless it is that zero, and
it stands for the number it was made from.  These are the facts that every format needs
to read a number back that it wrote.

Reading is more liberal than writing: it takes a plus sign and leading zeros.  It accepts just the
texts that are digits behind an optional plus sign, as long as their number fits 64 bits.
-/

namespace Playback.Text

theorem digitsValue_numeral (number : Nat) : digitsValue (numeral number) = number :=
  Nat.ofDigitChars_ten_toDigits

theorem numeral_ne_nil (number : Nat) : numeral number ≠ [] :=
  Nat.toDigits_ne_nil

theorem isDigit_of_mem_numeral {number : Nat} {c : Char} (member : c ∈ numeral number) :
    c.isDigit = true :=
  Nat.isDigit_of_mem_toDigits (by decide) (by decide) member

theorem not_mem_numeral {c : Char} (foreign : c.isDigit = false) (number : Nat) :
    c ∉ numeral number := by
  intro member
  rw [isDigit_of_mem_numeral member] at foreign
  cases foreign

/-- A numeral that begins with a zero is that zero. -/
theorem eq_nil_of_numeral_eq_zero_cons {number : Nat} {rest : List Char}
    (leading : numeral number = '0' :: rest) : rest = [] := by
  induction number using Nat.strongRecOn generalizing rest with
  | ind number induction =>
      rw [numeral, Nat.toDigits_eq_if (by decide)] at leading
      split at leading
      case isTrue small => exact (List.cons.inj leading).2.symm
      case isFalse large =>
        cases front : numeral (number / 10) with
        | nil => exact (numeral_ne_nil _ front).elim
        | cons first others =>
            have first_eq : first = '0' := by
              rw [← numeral, front] at leading
              exact (List.cons.inj leading).1
            rw [first_eq] at front
            -- The digits before the last one would be a zero, but they stand for more than that.
            have single := induction (number / 10) (by omega) front
            have zero : number / 10 = 0 := by
              rw [← digitsValue_numeral (number / 10), front, single]
              rfl
            omega

/-- A number as a reader takes it: digits, at least one, and maybe a plus sign before them. -/
structure IsNumber (text digits : List Char) : Prop where
  nonempty : digits ≠ []
  decimal : ∀ c ∈ digits, c.isDigit = true
  signed : text = digits ∨ text = '+' :: digits

variable {text digits : List Char} {number : Nat}

theorem isNumber_numeral (number : Nat) : IsNumber (numeral number) (numeral number) :=
  ⟨numeral_ne_nil number, fun _ => isDigit_of_mem_numeral, Or.inl rfl⟩

theorem IsNumber.dropPlus (isNumber : IsNumber text digits) : dropPlus text = digits := by
  obtain ⟨nonempty, decimal, rfl | rfl⟩ := isNumber
  · rw [Text.dropPlus.eq_2]
    rintro rest rfl
    cases decimal '+' List.mem_cons_self
  · rfl

theorem IsNumber.ne_nil (isNumber : IsNumber text digits) : text ≠ [] := by
  rintro rfl
  exact isNumber.nonempty isNumber.dropPlus.symm

/-- A number is read unless it is too large. -/
theorem IsNumber.readNumeral (isNumber : IsNumber text digits) :
    readNumeral text =
      if maxWord < digitsValue digits then .error .tooLarge else .ok (digitsValue digits) := by
  have whole : digits.takeWhile Char.isDigit = digits :=
    List.takeWhile_eq_self_iff.mpr isNumber.decimal
  rw [Text.readNumeral, isNumber.dropPlus, whole]
  simp [isNumber.ne_nil, isNumber.nonempty]

theorem eq_dropPlus_or (text : List Char) : text = dropPlus text ∨ text = '+' :: dropPlus text := by
  rw [dropPlus.eq_def]
  split
  · exact Or.inr rfl
  · exact Or.inl rfl

/-- Nothing but numbers is read. -/
theorem exists_isNumber_of_readNumeral (accepted : readNumeral text = .ok number) :
    ∃ digits, IsNumber text digits := by
  rw [readNumeral] at accepted
  split at accepted
  case isTrue => cases accepted
  case isFalse =>
    split at accepted
    case isTrue => cases accepted
    case isFalse =>
      split at accepted
      case isTrue => cases accepted
      case isFalse complete =>
        rw [Bool.or_eq_true, List.isEmpty_iff, decide_eq_true_eq, not_or] at complete
        have whole : (dropPlus text).takeWhile Char.isDigit = dropPlus text :=
          (List.takeWhile_prefix _).eq_of_length_le (Nat.le_of_not_lt complete.2)
        rw [whole] at complete
        exact ⟨dropPlus text, complete.1, List.takeWhile_eq_self_iff.mp whole, eq_dropPlus_or text⟩

theorem readNumeral_eq_ok_iff :
    readNumeral text = .ok number ↔
      ∃ digits, IsNumber text digits ∧ digitsValue digits = number ∧ number ≤ maxWord := by
  constructor
  · intro accepted
    obtain ⟨digits, isNumber⟩ := exists_isNumber_of_readNumeral accepted
    rw [isNumber.readNumeral] at accepted
    split at accepted
    case isTrue => cases accepted
    case isFalse fits =>
      cases accepted
      exact ⟨digits, isNumber, rfl, Nat.le_of_not_lt fits⟩
  · rintro ⟨digits, isNumber, rfl, fits⟩
    rw [isNumber.readNumeral, if_neg (Nat.not_lt_of_le fits)]

end Playback.Text
