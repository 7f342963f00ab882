import Mathlib.Data.List.TakeWhile
import Playback.Proofs.Text.Pieces
import Playback.Text.Blank

/-!
# Trimming and words

Trimming takes blanks away at both ends and nothing else.  What it leaves is the one part of a text
that has blanks only around it and no blank at its own ends.  In particular blanks that are put
before or after a text are of no account to a reader that trims, nor to one that looks at its words.
-/

namespace Playback.Text

/-- A text of blanks, possibly of none. -/
def AllBlank (text : List Char) : Prop :=
  ∀ c ∈ text, isBlank c = true

instance (text : List Char) : Decidable (AllBlank text) :=
  List.decidableBAll (isBlank · = true) text

/-- A text without a blank at either end. -/
structure Bare (text : List Char) : Prop where
  first : ∀ c ∈ text.head?, isBlank c = false
  last : ∀ c ∈ text.getLast?, isBlank c = false

variable {text blanks before after : List Char}

theorem AllBlank.reverse (blank : AllBlank blanks) : AllBlank blanks.reverse := by
  intro c member
  exact blank c (List.mem_reverse.mp member)

theorem AllBlank.append (first : AllBlank before) (second : AllBlank after) :
    AllBlank (before ++ after) :=
  List.forall_mem_append.mpr ⟨first, second⟩

theorem bare_of_forall_mem (bare : ∀ c ∈ text, isBlank c = false) : Bare text :=
  ⟨fun c first => bare c (List.mem_of_mem_head? first),
    fun c last => bare c (List.mem_of_mem_getLast? last)⟩

theorem isBlank_of_isDigit {c : Char} (digit : c.isDigit = true) : isBlank c = false := by
  simp only [Char.isDigit, Bool.and_eq_true, decide_eq_true_eq, ge_iff_le,
    UInt32.le_iff_toNat_le] at digit
  have bounds : 48 ≤ c.toNat ∧ c.toNat ≤ 57 := digit
  simp only [isBlank, Bool.or_eq_false_iff, Bool.and_eq_false_iff, decide_eq_false_iff_not,
    beq_eq_false_iff_ne]
  omega

/-- Blanks before a text are trimmed away. -/
theorem trim_blanks_append (blank : AllBlank blanks) (text : List Char) :
    trim (blanks ++ text) = trim text := by
  rw [trim, trimStart, List.dropWhile_append_of_pos blank, trim, trimStart]

theorem trimEnd_append_blanks (blank : AllBlank blanks) (text : List Char) :
    trimEnd (text ++ blanks) = trimEnd text := by
  rw [trimEnd, List.reverse_append, List.dropWhile_append_of_pos blank.reverse, trimEnd]

/-- Blanks after a text are trimmed away. -/
theorem trim_append_blanks (blank : AllBlank blanks) (text : List Char) :
    trim (text ++ blanks) = trim text := by
  rw [trim, trimStart, List.dropWhile_append, trim, trimStart]
  split
  case isTrue empty =>
    rw [List.isEmpty_iff.mp empty, List.dropWhile_eq_nil_iff.mpr blank]
  case isFalse => exact trimEnd_append_blanks blank _

/-- A text without a blank at its end is not trimmed there. -/
theorem trimEnd_eq_self (last : ∀ c ∈ text.getLast?, isBlank c = false) : trimEnd text = text := by
  rw [← List.head?_reverse] at last
  rw [trimEnd]
  cases reversed : text.reverse with
  | nil => simpa using reversed.symm
  | cons c rest =>
      rw [reversed] at last
      rw [List.dropWhile_cons_of_neg (by simp [last c rfl]), ← reversed, List.reverse_reverse]

theorem trim_eq_self (bare : Bare text) : trim text = text := by
  have kept : trimStart text = text := by
    rw [trimStart]
    cases text with
    | nil => rfl
    | cons c rest => rw [List.dropWhile_cons_of_neg (by simp [bare.first c rfl])]
  rw [trim, kept, trimEnd_eq_self bare.last]

/-- Trimming finds the bare part of a text that has only blanks around it. -/
theorem trim_of_bare (bare : Bare text) (blankBefore : AllBlank before)
    (blankAfter : AllBlank after) : trim (before ++ text ++ after) = text := by
  rw [trim_append_blanks blankAfter, trim_blanks_append blankBefore, trim_eq_self bare]

theorem exists_append_trimStart (text : List Char) :
    ∃ before, AllBlank before ∧ text = before ++ trimStart text :=
  ⟨text.takeWhile isBlank, fun _ => List.mem_takeWhile_imp,
    List.takeWhile_append_dropWhile.symm⟩

theorem exists_trimEnd_append (text : List Char) :
    ∃ after, AllBlank after ∧ text = trimEnd text ++ after := by
  obtain ⟨before, blank, same⟩ := exists_append_trimStart text.reverse
  refine ⟨before.reverse, blank.reverse, ?_⟩
  calc
    text = text.reverse.reverse := (List.reverse_reverse text).symm
    _ = (before ++ trimStart text.reverse).reverse := by rw [← same]
    _ = trimEnd text ++ before.reverse := List.reverse_append

/-- Trimming takes nothing but blanks away. -/
theorem exists_around_trim (text : List Char) :
    ∃ before after, AllBlank before ∧ AllBlank after ∧ text = before ++ trim text ++ after := by
  obtain ⟨before, blankBefore, start⟩ := exists_append_trimStart text
  obtain ⟨after, blankAfter, ending⟩ := exists_trimEnd_append (trimStart text)
  refine ⟨before, after, blankBefore, blankAfter, ?_⟩
  rw [List.append_assoc, trim, ← ending]
  exact start

/-- Trimming leaves no blank at either end. -/
theorem bare_trim (text : List Char) : Bare (trim text) := by
  have begins : ∀ text, ∀ c ∈ (trimStart text).head?, isBlank c = false := by
    intro text c first
    have kept := List.head?_dropWhile_not isBlank text
    rw [trimStart, Option.mem_def] at first
    rw [first] at kept
    exact kept
  constructor
  · intro c first
    obtain ⟨after, _, ending⟩ := exists_trimEnd_append (trimStart text)
    -- What is left begins with the character that the text begins with once its blanks are gone.
    apply begins text c
    rw [Option.mem_def] at first ⊢
    rw [ending, List.head?_append, ← trim, first, Option.some_or]
  · intro c last
    rw [trim, trimEnd, List.getLast?_reverse] at last
    exact begins _ c last

theorem trim_trim (text : List Char) : trim (trim text) = trim text :=
  trim_eq_self (bare_trim text)

/-- Something in front of a text that is no blank keeps the blanks behind it from being trimmed. -/
theorem trim_cons {c : Char} (notBlank : isBlank c = false) (text : List Char) :
    trim (c :: text) = c :: trimEnd text := by
  have kept : ¬isBlank c = true := by simp [notBlank]
  rw [trim, trimStart, List.dropWhile_cons_of_neg kept, trimEnd, List.reverse_cons,
    List.dropWhile_append, trimEnd]
  split
  case isTrue empty =>
    rw [List.dropWhile_cons_of_neg kept, List.isEmpty_iff.mp empty]
    rfl
  case isFalse => rw [List.reverse_append, List.reverse_singleton, List.singleton_append]

theorem trim_trimEnd (text : List Char) : trim (trimEnd text) = trim text := by
  obtain ⟨after, blank, same⟩ := exists_trimEnd_append text
  calc
    trim (trimEnd text) = trim (trimEnd text ++ after) := (trim_append_blanks blank _).symm
    _ = trim text := by rw [← same]

theorem trim_eq_nil_iff : trim text = [] ↔ AllBlank text := by
  constructor
  · intro empty
    obtain ⟨before, after, blankBefore, blankAfter, same⟩ := exists_around_trim text
    rw [empty, List.append_nil] at same
    intro c member
    rw [same] at member
    rcases List.mem_append.mp member with start | ending
    · exact blankBefore c start
    · exact blankAfter c ending
  · intro blank
    have trimmed : trim (text ++ []) = trim [] := trim_blanks_append blank []
    rw [List.append_nil] at trimmed
    exact trimmed

theorem mem_of_mem_trim {c : Char} (member : c ∈ trim text) : c ∈ text := by
  obtain ⟨before, after, _, _, same⟩ := exists_around_trim text
  rw [same]
  exact List.mem_append_left _ (List.mem_append_right _ member)

theorem length_trim_le (text : List Char) : (trim text).length ≤ text.length := by
  obtain ⟨before, after, _, _, same⟩ := exists_around_trim text
  have counted := congrArg List.length same
  rw [List.length_append, List.length_append] at counted
  omega

/-! ## Words -/

theorem isBlank_of_mem_words {word : List Char} (member : word ∈ words text) :
    ∀ c ∈ word, isBlank c = false :=
  eq_false_of_mem_splitOnP (List.mem_filter.mp member).1

/-- A text without blanks is a word. -/
theorem words_eq_singleton (nonempty : text ≠ []) (unbroken : ∀ c ∈ text, isBlank c = false) :
    words text = [text] := by
  rw [words, List.splitOnP_eq_singleton unbroken]
  simp [nonempty]

/-- No word goes over a blank. -/
theorem words_append_cons {c : Char} (blank : isBlank c = true) (before after : List Char) :
    words (before ++ c :: after) = words before ++ words after := by
  rw [words, List.splitOnP_append_cons before after blank, List.filter_append, words, words]

theorem words_of_allBlank (blank : AllBlank blanks) : words blanks = [] := by
  induction blanks with
  | nil => rfl
  | cons c rest induction =>
      obtain ⟨first, others⟩ := List.forall_mem_cons.mp blank
      rw [← List.nil_append (c :: rest), words_append_cons first, induction others]
      rfl

theorem words_blanks_append (blank : AllBlank blanks) (text : List Char) :
    words (blanks ++ text) = words text := by
  induction blanks with
  | nil => rfl
  | cons c rest induction =>
      obtain ⟨first, others⟩ := List.forall_mem_cons.mp blank
      rw [List.cons_append, ← List.nil_append (c :: (rest ++ text)), words_append_cons first,
        induction others]
      rfl

theorem words_append_blanks (blank : AllBlank blanks) (text : List Char) :
    words (text ++ blanks) = words text := by
  cases blanks with
  | nil => rw [List.append_nil]
  | cons c rest =>
      obtain ⟨first, others⟩ := List.forall_mem_cons.mp blank
      rw [words_append_cons first, words_of_allBlank others, List.append_nil]

/-- Trimming leaves all words. -/
theorem words_trim (text : List Char) : words (trim text) = words text := by
  obtain ⟨before, after, blankBefore, blankAfter, same⟩ := exists_around_trim text
  calc
    words (trim text) = words (before ++ trim text ++ after) := by
      rw [words_append_blanks blankAfter, words_blanks_append blankBefore]
    _ = words text := by rw [← same]

end Playback.Text
