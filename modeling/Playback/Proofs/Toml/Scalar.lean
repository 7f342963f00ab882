import Playback.Proofs.Text.Numeral
import Playback.Toml.Scalar

/-!
# Plain values

Two kinds of values are shown to be read as they stand: decimal numerals, and texts in double
quotes that need no escapes.  A numeral could be taken for a part of a date, a time or a
floating-point number; it is none, because it lacks the characters that these cannot do without.
-/

namespace Playback.Toml

open Text (numeral)

variable {c : Char} {text rest : List Char} {number : Nat}

/-- A numeral begins with a digit. -/
theorem exists_cons_numeral (number : Nat) :
    ∃ digit digits, numeral number = digit :: digits ∧ digit.isDigit = true := by
  obtain ⟨digit, digits, written⟩ := List.exists_cons_of_ne_nil (Text.numeral_ne_nil number)
  exact ⟨digit, digits, written, Text.isDigit_of_mem_numeral (written ▸ List.mem_cons_self)⟩

theorem ne_of_isDigit (digit : c.isDigit = true) {d : Char} (foreign : d.isDigit = false) :
    c ≠ d := by
  rintro rfl
  rw [digit] at foreign
  cases foreign

theorem date?_numeral (number : Nat) : date? (numeral number) = none := by
  have hyphen : '-' ∉ numeral number := Text.not_mem_numeral rfl number
  unfold date?
  split
  case h_1 written =>
    rw [written] at hyphen
    simp at hyphen
  case h_2 => rfl

theorem time?_numeral (number : Nat) : time? (numeral number) = none := by
  have colon : ':' ∉ numeral number := Text.not_mem_numeral rfl number
  unfold time?
  split
  case h_1 written =>
    rw [written] at colon
    simp at colon
  case h_2 written =>
    rw [written] at colon
    simp at colon
  case h_3 => rfl

theorem isMoment_numeral (number : Nat) : isMoment (numeral number) = false := by
  rw [isMoment, date?_numeral]
  dsimp only
  rw [time?_numeral]
  rfl

theorem dropSign_numeral (number : Nat) : dropSign (numeral number) = numeral number := by
  obtain ⟨digit, digits, written, isDigit⟩ := exists_cons_numeral number
  rw [written, dropSign]
  · rintro others ⟨⟩
    cases isDigit
  · rintro others ⟨⟩
    cases isDigit

theorem isFloat_numeral (number : Nat) : isFloat (numeral number) = false := by
  obtain ⟨digit, digits, written, isDigit⟩ := exists_cons_numeral number
  have allowed : ∀ c ∈ numeral number, isDigitOrUnderscore c = true := by
    intro c member
    rw [isDigitOrUnderscore, Text.isDigit_of_mem_numeral member]
    rfl
  have noSpecial : isSpecialFloat (numeral number) = false := by
    rw [isSpecialFloat, dropSign_numeral, written]
    simp [ne_of_isDigit isDigit (by decide : 'i'.isDigit = false),
      ne_of_isDigit isDigit (by decide : 'n'.isDigit = false)]
  have noFraction : fractional? (numeral number) = none := by
    rw [fractional?, List.takeWhile_eq_self_iff.mpr allowed, List.dropWhile_eq_nil_iff.mpr allowed]
    cases wholeDigits? (numeral number) <;> rfl
  rw [isFloat, noSpecial, dropSign_numeral, noFraction]
  rfl

theorem ungrouped?_of_digits (digits : ∀ c ∈ text, c.isDigit = true) (nonempty : text ≠ []) :
    ungrouped? Char.isDigit text = some text := by
  induction text with
  | nil => exact (nonempty rfl).elim
  | cons first rest induction =>
      have digit := digits first List.mem_cons_self
      have others := fun c member => digits c (List.mem_cons_of_mem first member)
      cases rest with
      | nil => rw [ungrouped?, if_pos digit]
      | cons second rest =>
          rw [ungrouped?, if_pos digit, induction others (List.cons_ne_nil _ _)]
          · rfl
          · exact List.cons_ne_nil _ _
          · rintro others' ⟨⟩
            cases digits '_' (by simp)

theorem decimal?_numeral (number : Nat) : decimal? (numeral number) = some (number : Int) := by
  have digits := ungrouped?_of_digits (fun _ => Text.isDigit_of_mem_numeral)
    (Text.numeral_ne_nil number)
  have whole : wholeDigits? (numeral number) = some (numeral number) := by
    rw [wholeDigits?, digits]
    split
    case h_1 c others same =>
      cases Text.eq_nil_of_numeral_eq_zero_cons (Option.some.inj same)
    case h_2 => rfl
  rw [decimal?, whole, Option.map_some, Text.digitsValue_numeral]

/-- A numeral is read as its number. -/
theorem integer?_numeral (number : Nat) : integer? (numeral number) = some (number : Int) := by
  have foreign : ∀ {c : Char}, c.isDigit = false → c ∉ numeral number :=
    fun foreign => Text.not_mem_numeral foreign number
  rw [integer?.eq_def]
  split
  case h_1 written => exact (foreign (c := 'x') rfl (by rw [written]; simp)).elim
  case h_2 written => exact (foreign (c := 'o') rfl (by rw [written]; simp)).elim
  case h_3 written => exact (foreign (c := 'b') rfl (by rw [written]; simp)).elim
  case h_4 written => exact (foreign (c := '+') rfl (by rw [written]; simp)).elim
  case h_5 written => exact (foreign (c := '-') rfl (by rw [written]; simp)).elim
  case h_6 => exact decimal?_numeral number

theorem ofWord?_numeral (number : Nat) :
    ofWord? (numeral number) = some (.integer (numeral number)) := by
  obtain ⟨digit, digits, written, isDigit⟩ := exists_cons_numeral number
  have noTrue : numeral number ≠ ['t', 'r', 'u', 'e'] := by
    rw [written]
    rintro ⟨⟩
    cases isDigit
  have noFalse : numeral number ≠ ['f', 'a', 'l', 's', 'e'] := by
    rw [written]
    rintro ⟨⟩
    cases isDigit
  have isInteger : isInteger (numeral number) = true := by
    rw [Toml.isInteger, integer?_numeral]
    rfl
  rw [ofWord?, if_neg noTrue, if_neg noFalse, if_neg (by simp [isFloat_numeral]),
    if_neg (by simp [isMoment_numeral]), if_pos isInteger]

/-- Whether a text cannot go on with a word before it. -/
def endsWord : List Char → Bool
  | [] => true
  | c :: _ => isSeparator c && !isBlank c

theorem cutWord_append (word : ∀ c ∈ text, isSeparator c = false) (ends : endsWord rest = true) :
    cutWord (text ++ rest) = (text, rest) := by
  induction text with
  | nil =>
      cases rest with
      | nil => rfl
      | cons c rest =>
          rw [endsWord, Bool.and_eq_true, Bool.not_eq_true'] at ends
          rw [List.nil_append, cutWord, if_neg (by simp [ends])]
  | cons c text induction =>
      have inner := word c List.mem_cons_self
      rw [List.cons_append, cutWord, if_pos (by simp [inner]),
        induction fun d member => word d (List.mem_cons_of_mem c member)]

theorem isSeparator_of_isDigit (digit : c.isDigit = true) : isSeparator c = false := by
  rw [Bool.eq_false_iff]
  intro separator
  simp only [isSeparator, isBlank, Bool.or_eq_true, decide_eq_true_eq] at separator
  rcases separator with (((((((((rfl | rfl) | rfl) | rfl) | rfl) | rfl) | rfl) | rfl) | rfl) |
    rfl) | rfl <;> cases digit

theorem scalar?_numeral (number : Nat) (ends : endsWord rest = true) :
    scalar? (numeral number ++ rest) = some (.integer (numeral number), rest) := by
  obtain ⟨digit, digits, written, isDigit⟩ := exists_cons_numeral number
  have noText : text? (numeral number ++ rest) = none := by
    rw [written, List.cons_append, text?, lineText?]
    all_goals
      intro others same
      rw [(List.cons.inj same).1] at isDigit
      cases isDigit
  have cut : cutWord (numeral number ++ rest) = (numeral number, rest) :=
    cutWord_append (fun c member => isSeparator_of_isDigit (Text.isDigit_of_mem_numeral member))
      ends
  rw [scalar?, noText]
  dsimp only
  rw [cut]
  dsimp only
  rw [ofWord?_numeral, Option.map_some]

/-- Whether a character stands for itself in a text in double quotes. -/
def isPlain (c : Char) : Bool :=
  c != '"' && c != '\\' && !isControl c

theorem basic?_plain (plain : ∀ c ∈ text, isPlain c = true) (rest : List Char) :
    basic? (text ++ '"' :: rest) = some (text, rest) := by
  induction text with
  | nil => rfl
  | cons c text induction =>
      have inner := plain c List.mem_cons_self
      simp only [isPlain, Bool.and_eq_true, bne_iff_ne, Bool.not_eq_true'] at inner
      obtain ⟨⟨noQuote, noBackslash⟩, noControl⟩ := inner
      rw [List.cons_append, basic?,
        induction fun d member => plain d (List.mem_cons_of_mem c member),
        if_neg (by simp [noControl])]
      · rfl
      all_goals
        intros
        contradiction

/-- A nonempty plain text is read up to its closing quote. -/
theorem scalar?_quoted (nonempty : text ≠ []) (plain : ∀ c ∈ text, isPlain c = true)
    (rest : List Char) :
    scalar? ('"' :: text ++ '"' :: rest) = some (.string text, rest) := by
  have read : text? ('"' :: text ++ '"' :: rest) = some (text, rest) := by
    rw [List.cons_append, text?, lineText?, basic?_plain plain]
    · rintro others same
      obtain ⟨c, content, rfl⟩ := List.exists_cons_of_ne_nil nonempty
      have quote : c = '"' := (List.cons.inj (List.cons.inj same).2).1
      have isPlain := plain c List.mem_cons_self
      rw [quote] at isPlain
      cases isPlain
    · rintro others ⟨⟩
  rw [scalar?, read]

end Playback.Toml
