import Playback.Breakpoint
import Playback.Proofs.Text.Blank
import Playback.Proofs.Text.Numeral

/-!
# Which texts name a breakpoint

A text names a line if it consists of digits, with a plus sign before them or not, with an at sign
before that or not, and of blanks around each of the two parts.  Reading accepts these texts, if
the digits stand for a 64-bit number other than zero, and no others, and its three refusals divide
the remaining ones among them: texts of blanks, names of the line zero, and all else.  The
last refusal quotes what remains of the text without the at sign and the blanks.

Every text that is not all blanks has one such remainder, and everything follows from what reading
makes of it.
-/

namespace Playback.Breakpoint

open Text (AllBlank Bare IsNumber)

/-- Digits as the name of a line: with blanks around, an at sign and a plus sign where they may
be. -/
inductive Names (digits : List Char) : List Char → Prop
  | intro {before mark gap sign after : List Char} (blankBefore : AllBlank before)
      (marked : mark = [] ∨ mark = ['@']) (blankGap : AllBlank gap)
      (signed : sign = [] ∨ sign = ['+']) (nonempty : digits ≠ [])
      (decimal : ∀ c ∈ digits, c.isDigit = true) (blankAfter : AllBlank after) :
      Names digits (before ++ mark ++ gap ++ sign ++ digits ++ after)

/-- What remains of a text that is not all blanks: the part after the at sign, if there is one. -/
inductive Remainder (rest : List Char) : List Char → Prop
  | marked {before gap after : List Char} (blankBefore : AllBlank before) (blankGap : AllBlank gap)
      (bare : Bare rest) (blankAfter : AllBlank after) :
      Remainder rest (before ++ '@' :: (gap ++ rest ++ after))
  | unmarked {before after : List Char} (blankBefore : AllBlank before)
      (nonempty : rest ≠ []) (noMark : rest.head? ≠ some '@') (bare : Bare rest)
      (blankAfter : AllBlank after) : Remainder rest (before ++ rest ++ after)

variable {text rest digits : List Char} {line : Nat}

theorem dropAt_eq_self (noMark : text.head? ≠ some '@') : dropAt text = text := by
  rw [dropAt.eq_2]
  rintro rest rfl
  exact noMark rfl

/-- A text that is not all blanks has a remainder. -/
theorem exists_remainder (notBlank : ¬AllBlank text) : ∃ rest, Remainder rest text := by
  obtain ⟨before, after, blankBefore, blankAfter, same⟩ := Text.exists_around_trim text
  have nonempty : Text.trim text ≠ [] := fun empty => notBlank (Text.trim_eq_nil_iff.mp empty)
  have bare := Text.bare_trim text
  generalize Text.trim text = core at same nonempty bare
  subst same
  by_cases mark : core.head? = some '@'
  · obtain ⟨tail, rfl⟩ := List.head?_eq_some_iff.mp mark
    obtain ⟨gap, last, blankGap, blankLast, around⟩ := Text.exists_around_trim tail
    have bareTail := Text.bare_trim tail
    generalize Text.trim tail = rest at around bareTail
    subst around
    refine ⟨rest, ?_⟩
    have split : before ++ '@' :: (gap ++ rest ++ last) ++ after =
        before ++ '@' :: (gap ++ rest ++ (last ++ after)) := by simp
    rw [split]
    exact .marked blankBefore blankGap bareTail (blankLast.append blankAfter)
  · exact ⟨core, .unmarked blankBefore nonempty mark bare blankAfter⟩

/-- The remainder is what reading makes of a text before it looks for a number. -/
theorem Remainder.trim_dropAt (remainder : Remainder rest text) :
    Text.trim (dropAt (Text.trim text)) = rest := by
  cases remainder with
  | marked blankBefore blankGap bare blankAfter =>
      rw [Text.trim_blanks_append blankBefore, Text.trim_cons (by decide), dropAt,
        Text.trim_trimEnd, Text.trim_of_bare bare blankGap blankAfter]
  | unmarked blankBefore _ noMark bare blankAfter =>
      rw [Text.trim_of_bare bare blankBefore blankAfter, dropAt_eq_self noMark,
        Text.trim_eq_self bare]

theorem Remainder.not_allBlank (remainder : Remainder rest text) : ¬AllBlank text := by
  intro blank
  cases remainder with
  | marked => cases blank '@' (by simp)
  | unmarked _ nonempty _ bare _ =>
      obtain ⟨c, tail, rfl⟩ := List.exists_cons_of_ne_nil nonempty
      have isBlank := blank c (by simp)
      cases (bare.first c rfl).symm.trans isBlank

/-- A text has one remainder at most. -/
theorem Remainder.unique {other : List Char} (first : Remainder rest text)
    (second : Remainder other text) : rest = other :=
  first.trim_dropAt.symm.trans second.trim_dropAt

/-- A number has no blank at either end, and no at sign in front. -/
theorem bare_of_isNumber (isNumber : IsNumber rest digits) :
    Bare rest ∧ rest.head? ≠ some '@' := by
  have plain : ∀ c ∈ rest, Text.isBlank c = false ∧ c ≠ '@' := by
    have decimal : ∀ c ∈ digits, Text.isBlank c = false ∧ c ≠ '@' := by
      intro c member
      have digit := isNumber.decimal c member
      refine ⟨Text.isBlank_of_isDigit digit, ?_⟩
      rintro rfl
      cases digit
    rcases isNumber.signed with rfl | rfl
    · exact decimal
    · exact List.forall_mem_cons.mpr ⟨by decide, decimal⟩
  refine ⟨Text.bare_of_forall_mem fun c member => (plain c member).1, fun mark => ?_⟩
  exact (plain '@' (List.mem_of_mem_head? mark)).2 rfl

/-- A text names a line by the number that is its remainder. -/
theorem names_iff : Names digits text ↔ ∃ rest, Remainder rest text ∧ IsNumber rest digits := by
  constructor
  · rintro ⟨blankBefore, marked, blankGap, signed, nonempty, decimal, blankAfter⟩
    rename_i before mark gap sign after
    have isNumber : IsNumber (sign ++ digits) digits := by
      refine ⟨nonempty, decimal, ?_⟩
      rcases signed with rfl | rfl
      · exact Or.inl rfl
      · exact Or.inr rfl
    obtain ⟨bare, noMark⟩ := bare_of_isNumber isNumber
    refine ⟨sign ++ digits, ?_, isNumber⟩
    rcases marked with rfl | rfl
    · have shape : before ++ [] ++ gap ++ sign ++ digits ++ after =
          (before ++ gap) ++ (sign ++ digits) ++ after := by simp
      rw [shape]
      exact .unmarked (blankBefore.append blankGap) isNumber.ne_nil noMark bare blankAfter
    · have shape : before ++ ['@'] ++ gap ++ sign ++ digits ++ after =
          before ++ '@' :: (gap ++ (sign ++ digits) ++ after) := by simp
      rw [shape]
      exact .marked blankBefore blankGap bare blankAfter
  · rintro ⟨rest, remainder, nonempty, decimal, signed⟩
    obtain ⟨sign, optional, rfl⟩ : ∃ sign, (sign = [] ∨ sign = ['+']) ∧ rest = sign ++ digits := by
      rcases signed with rfl | rfl
      · exact ⟨[], Or.inl rfl, rfl⟩
      · exact ⟨['+'], Or.inr rfl, rfl⟩
    cases remainder with
    | @marked before gap after blankBefore blankGap _ blankAfter =>
        have shape : before ++ '@' :: (gap ++ (sign ++ digits) ++ after) =
            before ++ ['@'] ++ gap ++ sign ++ digits ++ after := by simp
        rw [shape]
        exact .intro blankBefore (Or.inr rfl) blankGap optional nonempty decimal blankAfter
    | @unmarked before after blankBefore _ _ _ blankAfter =>
        have shape : before ++ (sign ++ digits) ++ after =
            before ++ [] ++ [] ++ sign ++ digits ++ after := by simp
        rw [shape]
        exact .intro blankBefore (Or.inl rfl) (by simp [AllBlank]) optional nonempty decimal
          blankAfter

/-! ## Reading -/

theorem read_of_allBlank (blank : AllBlank text) : read text = .error .empty := by
  rw [read, Text.trim_eq_nil_iff.mpr blank]
  rfl

/-- A text that is not all blanks is read as the number that its remainder is, unless that is
zero. -/
theorem Remainder.read_cases (remainder : Remainder rest text) :
    (∃ reason, Text.readNumeral rest = .error reason ∧
        read text = .error (.badNumber (String.ofList rest) reason)) ∨
      (Text.readNumeral rest = .ok 0 ∧ read text = .error .zero) ∨
      ∃ line, line ≠ 0 ∧ Text.readNumeral rest = .ok line ∧ read text = .ok line := by
  have nonempty : ¬(Text.trim text).isEmpty = true := fun empty =>
    remainder.not_allBlank (Text.trim_eq_nil_iff.mp (List.isEmpty_iff.mp empty))
  rw [read]
  simp only [if_neg nonempty, remainder.trim_dropAt]
  cases Text.readNumeral rest with
  | error reason => exact Or.inl ⟨reason, rfl, rfl⟩
  | ok number =>
      cases number with
      | zero => exact Or.inr (Or.inl ⟨rfl, rfl⟩)
      | succ line => exact Or.inr (Or.inr ⟨line + 1, Nat.succ_ne_zero line, rfl, rfl⟩)

theorem Remainder.read_eq_ok_iff (remainder : Remainder rest text) :
    read text = .ok line ↔ line ≠ 0 ∧ Text.readNumeral rest = .ok line := by
  rcases remainder.read_cases with
    ⟨reason, number, same⟩ | ⟨number, same⟩ | ⟨other, positive, number, same⟩
  · simp [number, same]
  · simp [number, same, eq_comm]
  · rw [number, same]
    constructor
    · rintro ⟨⟩
      exact ⟨positive, rfl⟩
    · rintro ⟨_, ⟨⟩⟩
      rfl

theorem Remainder.read_eq_zero_iff (remainder : Remainder rest text) :
    read text = .error .zero ↔ Text.readNumeral rest = .ok 0 := by
  rcases remainder.read_cases with
    ⟨reason, number, same⟩ | ⟨number, same⟩ | ⟨other, positive, number, same⟩
  · simp [number, same]
  · simp [number, same]
  · simp [number, same, positive]

/-- A remainder is read as the number that names a line, if that fits 64 bits. -/
theorem Remainder.readNumeral_eq_ok_iff (remainder : Remainder rest text) (line : Nat) :
    Text.readNumeral rest = .ok line ↔
      line ≤ Text.maxWord ∧ ∃ digits, Names digits text ∧ Text.digitsValue digits = line := by
  rw [Text.readNumeral_eq_ok_iff]
  constructor
  · rintro ⟨digits, isNumber, value, fits⟩
    exact ⟨fits, digits, names_iff.mpr ⟨rest, remainder, isNumber⟩, value⟩
  · rintro ⟨fits, digits, names, value⟩
    obtain ⟨other, named, isNumber⟩ := names_iff.mp names
    rw [← remainder.unique named] at isNumber
    exact ⟨digits, isNumber, value, fits⟩

theorem Names.not_allBlank (names : Names digits text) : ¬AllBlank text := by
  obtain ⟨_, remainder, _⟩ := names_iff.mp names
  exact remainder.not_allBlank

theorem read_eq_ok_iff :
    read text = .ok line ↔
      1 ≤ line ∧ line ≤ Text.maxWord ∧
        ∃ digits, Names digits text ∧ Text.digitsValue digits = line := by
  by_cases blank : AllBlank text
  · rw [read_of_allBlank blank]
    refine ⟨nofun, ?_⟩
    rintro ⟨_, _, _, names, _⟩
    exact (names.not_allBlank blank).elim
  · obtain ⟨rest, remainder⟩ := exists_remainder blank
    rw [remainder.read_eq_ok_iff, remainder.readNumeral_eq_ok_iff, Nat.one_le_iff_ne_zero]

theorem read_eq_empty_iff : read text = .error .empty ↔ AllBlank text := by
  refine ⟨fun refused => ?_, read_of_allBlank⟩
  by_contra notBlank
  obtain ⟨rest, remainder⟩ := exists_remainder notBlank
  rcases remainder.read_cases with ⟨_, _, same⟩ | ⟨_, same⟩ | ⟨_, _, _, same⟩ <;>
    cases same.symm.trans refused

theorem read_eq_zero_iff :
    read text = .error .zero ↔ ∃ digits, Names digits text ∧ Text.digitsValue digits = 0 := by
  by_cases blank : AllBlank text
  · rw [read_of_allBlank blank]
    refine ⟨nofun, ?_⟩
    rintro ⟨_, names, _⟩
    exact (names.not_allBlank blank).elim
  · obtain ⟨rest, remainder⟩ := exists_remainder blank
    rw [remainder.read_eq_zero_iff, remainder.readNumeral_eq_ok_iff,
      and_iff_right (Nat.zero_le _)]

/-- The last refusal is for whatever is neither blank nor the name of a 64-bit number. -/
theorem exists_badNumber_iff :
    (∃ rest reason, Remainder rest text ∧
        read text = .error (.badNumber (String.ofList rest) reason)) ↔
      ¬AllBlank text ∧
        ∀ digits, Names digits text → Text.maxWord < Text.digitsValue digits := by
  constructor
  · rintro ⟨rest, reason, remainder, refused⟩
    refine ⟨remainder.not_allBlank, fun digits names => ?_⟩
    by_contra fits
    have number : Text.readNumeral rest = .ok (Text.digitsValue digits) :=
      (remainder.readNumeral_eq_ok_iff _).mpr ⟨Nat.le_of_not_lt fits, digits, names, rfl⟩
    by_cases zero : Text.digitsValue digits = 0
    · rw [zero] at number
      cases refused.symm.trans (remainder.read_eq_zero_iff.mpr number)
    · cases refused.symm.trans (remainder.read_eq_ok_iff.mpr ⟨zero, number⟩)
  · rintro ⟨notBlank, tooLarge⟩
    obtain ⟨rest, remainder⟩ := exists_remainder notBlank
    have unread : ∀ number, Text.readNumeral rest ≠ .ok number := by
      intro number accepted
      obtain ⟨fits, digits, names, rfl⟩ := (remainder.readNumeral_eq_ok_iff number).mp accepted
      exact Nat.not_lt_of_le fits (tooLarge digits names)
    rcases remainder.read_cases with ⟨reason, _, same⟩ | ⟨number, _⟩ | ⟨_, _, number, _⟩
    · exact ⟨rest, reason, remainder, same⟩
    · exact (unread _ number).elim
    · exact (unread _ number).elim

/-- What is displayed is the name of the line. -/
theorem names_display (line : Nat) : Names (Text.numeral line) (display line) := by
  obtain ⟨bare, _⟩ := bare_of_isNumber (Text.isNumber_numeral line)
  have remainder : Remainder (Text.numeral line) ([] ++ '@' :: ([] ++ Text.numeral line ++ [])) :=
    .marked (by simp [AllBlank]) (by simp [AllBlank]) bare (by simp [AllBlank])
  rw [List.append_nil] at remainder
  exact names_iff.mpr ⟨_, remainder, Text.isNumber_numeral line⟩

theorem read_display (positive : 1 ≤ line) (fits : line ≤ Text.maxWord) :
    read (display line) = .ok line :=
  read_eq_ok_iff.mpr ⟨positive, fits, _, names_display line, Text.digitsValue_numeral line⟩

/--
A text is read as a line exactly if it is the name of that line, by digits of any number of
leading zeros, and the line is one of the 64-bit numbers from one.  Of the others, the texts of
blanks are refused as empty, the names of zero as zero, and all that remain as bad numbers, with
what they have instead of a number.  A line that is displayed is read again, and so is the line
of any text that was read.
-/
theorem names_are_read (text : List Char) :
    (∀ line, read text = .ok line ↔
      1 ≤ line ∧ line ≤ Text.maxWord ∧
        ∃ digits, Names digits text ∧ Text.digitsValue digits = line) ∧
    (read text = .error .empty ↔ ∀ c ∈ text, Text.isBlank c = true) ∧
    (read text = .error .zero ↔
      ∃ digits, Names digits text ∧ Text.digitsValue digits = 0) ∧
    ((∃ rest reason, Remainder rest text ∧
        read text = .error (.badNumber (String.ofList rest) reason)) ↔
      ¬(∀ c ∈ text, Text.isBlank c = true) ∧
        ∀ digits, Names digits text → Text.maxWord < Text.digitsValue digits) ∧
    (∀ line, 1 ≤ line → line ≤ Text.maxWord → read (display line) = .ok line) ∧
    ∀ line, read text = .ok line → read (display line) = .ok line := by
  refine ⟨fun line => read_eq_ok_iff, read_eq_empty_iff, read_eq_zero_iff, exists_badNumber_iff,
    fun line => read_display, fun line accepted => ?_⟩
  obtain ⟨positive, fits, _⟩ := read_eq_ok_iff.mp accepted
  exact read_display positive fits

/-- The largest line, with a plus sign, leading zeros and blanks wherever they may be. -/
example : read " @ +0018446744073709551615 ".toList = .ok 18446744073709551615 := by
  decide +kernel

end Playback.Breakpoint
