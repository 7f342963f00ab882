import Playback.Word

/-!
# Wrapping sums

Such a sum is a 64-bit number, and it is the sum itself if that is one.
-/

namespace Playback.Word

open Text (maxWord)

variable {first second : Nat}

theorem add_le (first second : Nat) : add first second ≤ maxWord :=
  Nat.le_of_lt_succ (Nat.mod_lt _ (Nat.succ_pos maxWord))

theorem add_eq_of_le (fits : first + second ≤ maxWord) : add first second = first + second :=
  Nat.mod_eq_of_lt (Nat.lt_succ_of_le fits)

theorem add_add (first second third : Nat) :
    add first (add second third) = add (first + second) third := by
  rw [add, add, add, Nat.add_mod_mod, Nat.add_assoc]

/-- The number after the greatest is zero. -/
theorem add_maxWord_one : add maxWord 1 = 0 :=
  Nat.mod_self (maxWord + 1)

end Playback.Word
