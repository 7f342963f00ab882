import Playback.Proofs.Text.Blank
import Playback.Text.Lines

/-!
# Lines written and read again

A text is written by closing every line with a line feed.  Reading it gives the lines back, except
that a carriage return at the end of a line now counts as part of the line end.  For a reader
that trims its lines this makes no difference, since a carriage return is blank.
-/

namespace Playback.Text

/-- The text of some lines, each closed by a line feed. -/
def unlines (lines : List (List Char)) : List Char :=
  lines.flatMap (· ++ ['\n'])

/-- A line as it is read again after it was written. -/
def reread (line : List Char) : List Char :=
  (dropReturn line.reverse).reverse

variable {line rest : List Char}

/-- Characters before the next line feed belong to the current line. -/
theorem linesFrom_append (unbroken : '\n' ∉ line) (current : List Char) :
    linesFrom current (line ++ rest) = linesFrom (line.reverse ++ current) rest := by
  induction line generalizing current with
  | nil => rfl
  | cons c line induction =>
      have different : c ≠ '\n' := (List.ne_of_not_mem_cons unbroken).symm
      have unbrokenRest : '\n' ∉ line := List.not_mem_of_not_mem_cons unbroken
      rw [List.cons_append, linesFrom, if_neg different, induction unbrokenRest,
        List.reverse_cons, List.append_assoc]
      rfl

/-- Lines without line feeds are read again as they were written. -/
theorem lines_unlines {lines : List (List Char)} (unbroken : ∀ line ∈ lines, '\n' ∉ line) :
    Text.lines (unlines lines) = lines.map reread := by
  induction lines with
  | nil => rfl
  | cons line later induction =>
      have first : '\n' ∉ line := unbroken line List.mem_cons_self
      have others : ∀ line ∈ later, '\n' ∉ line := fun other member =>
        unbroken other (List.mem_cons_of_mem line member)
      have tail : linesFrom [] (unlines later) = later.map reread := induction others
      rw [Text.lines, unlines, List.flatMap_cons, List.append_assoc, linesFrom_append first,
        List.append_nil, List.singleton_append, linesFrom, if_pos rfl, List.map_cons, ← tail]
      rfl

theorem not_mem_of_mem_linesFrom {current text : List Char} (started : '\n' ∉ current)
    (member : line ∈ linesFrom current text) : '\n' ∉ line := by
  have dropped : ∀ {line : List Char}, '\n' ∉ line → '\n' ∉ (dropReturn line).reverse := by
    intro line unbroken
    rw [List.mem_reverse, dropReturn.eq_def]
    split
    · exact List.not_mem_of_not_mem_cons unbroken
    · exact unbroken
  induction text generalizing current with
  | nil =>
      rw [linesFrom] at member
      split at member
      · cases member
      · rw [List.mem_singleton.mp member, List.mem_reverse]
        exact started
  | cons c rest induction =>
      rw [linesFrom] at member
      split at member
      case isTrue =>
        rcases List.mem_cons.mp member with rfl | later
        · exact dropped started
        · exact induction List.not_mem_nil later
      case isFalse different =>
        refine induction (fun broken => ?_) member
        rcases List.mem_cons.mp broken with rfl | earlier
        · exact different rfl
        · exact started earlier

/-- A line of a text has no line feeds. -/
theorem not_mem_of_mem_lines {text : List Char} (member : line ∈ Text.lines text) :
    '\n' ∉ line :=
  not_mem_of_mem_linesFrom List.not_mem_nil member

theorem length_linesFrom_le (current text : List Char) :
    (linesFrom current text).length ≤ current.length + text.length := by
  induction text generalizing current with
  | nil =>
      rw [linesFrom]
      split
      case isTrue => exact Nat.zero_le _
      case isFalse nonempty =>
        exact List.length_pos_iff.mpr fun empty => nonempty (List.isEmpty_iff.mpr empty)
  | cons c rest induction =>
      rw [linesFrom]
      split
      case isTrue =>
        have few := induction []
        simp only [List.length_cons, List.length_nil] at few ⊢
        omega
      case isFalse =>
        have few := induction (c :: current)
        simp only [List.length_cons] at few ⊢
        omega

/-- A text has no more lines than characters. -/
theorem length_lines_le (text : List Char) : (Text.lines text).length ≤ text.length :=
  (length_linesFrom_le [] text).trans (Nat.zero_add _).le

/-- A line without carriage returns is read again as it is. -/
theorem reread_eq_self (plain : '\r' ∉ line) : reread line = line := by
  rw [reread, dropReturn.eq_def]
  split
  case h_1 before reversed =>
    have ended : '\r' ∈ line.reverse := reversed ▸ List.mem_cons_self
    exact (plain (List.mem_reverse.mp ended)).elim
  case h_2 => exact List.reverse_reverse line

/-- A line that was written and read again is the same to a reader that trims it. -/
theorem trim_reread (line : List Char) : trim (reread line) = trim line := by
  rw [reread, dropReturn.eq_def]
  split
  case h_1 before reversed =>
    have ended : line = before.reverse ++ ['\r'] := by
      rw [← List.reverse_cons, ← reversed, List.reverse_reverse]
    rw [ended, trim_append_blanks (by decide)]
  case h_2 => rw [List.reverse_reverse]

end Playback.Text
