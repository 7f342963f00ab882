import Mathlib.Data.List.Basic

/-!
# Pieces of a text

A text that is cut at separators falls into pieces without these, and all its other characters are
in the pieces.  A text that is put together from pieces has nothing but their characters and
the separators.
-/

namespace Playback.Text

/-- What is cut out between separators holds none. -/
theorem eq_false_of_mem_splitOnP {separates : Char → Bool} {text piece : List Char}
    (member : piece ∈ text.splitOnP separates) : ∀ c ∈ piece, separates c = false := by
  induction text generalizing piece with
  | nil =>
      rw [List.splitOnP_nil, List.mem_singleton] at member
      rw [member]
      exact List.forall_mem_nil _
  | cons first rest induction =>
      obtain ⟨head, pieces, cut⟩ :=
        List.exists_cons_of_ne_nil (List.splitOnP_ne_nil separates rest)
      rw [List.splitOnP_cons_eq_if_modifyHead, cut] at member
      rw [cut] at induction
      split at member
      case isTrue =>
        rcases List.mem_cons.mp member with rfl | later
        · exact List.forall_mem_nil _
        · exact induction later
      case isFalse inner =>
        rcases List.mem_cons.mp member with rfl | later
        · exact List.forall_mem_cons.mpr
            ⟨Bool.eq_false_iff.mpr inner, induction List.mem_cons_self⟩
        · exact induction (List.mem_cons_of_mem _ later)

/-- Every character of a text but the separators is in one of the pieces between these. -/
theorem exists_mem_splitOn {c separator : Char} {text : List Char} (member : c ∈ text)
    (different : c ≠ separator) : ∃ piece ∈ text.splitOn separator, c ∈ piece := by
  induction text with
  | nil => cases member
  | cons first rest induction =>
      obtain ⟨piece, pieces, cut⟩ :=
        List.exists_cons_of_ne_nil (List.splitOn_ne_nil separator rest)
      rw [List.splitOn_cons_eq_if_modifyHead, cut]
      rw [cut] at induction
      split
      case isTrue same =>
        have later : c ∈ rest := (List.mem_cons.mp member).resolve_left fun first =>
          different (first.trans (eq_of_beq same))
        obtain ⟨found, known, holds⟩ := induction later
        exact ⟨found, List.mem_cons_of_mem _ known, holds⟩
      case isFalse =>
        rcases List.mem_cons.mp member with rfl | later
        · exact ⟨c :: piece, List.mem_cons_self, List.mem_cons_self⟩
        · obtain ⟨found, known, holds⟩ := induction later
          rcases List.mem_cons.mp known with rfl | known
          · exact ⟨first :: found, List.mem_cons_self, List.mem_cons_of_mem first holds⟩
          · exact ⟨found, List.mem_cons_of_mem _ known, holds⟩

/-- What is written with separators are these and the characters of the pieces. -/
theorem mem_intercalate {c : Char} {separator : List Char} {pieces : List (List Char)}
    (member : c ∈ separator.intercalate pieces) :
    c ∈ separator ∨ ∃ piece ∈ pieces, c ∈ piece := by
  induction pieces with
  | nil => cases member
  | cons piece pieces induction =>
      cases pieces with
      | nil =>
          rw [List.intercalate_singleton] at member
          exact Or.inr ⟨piece, List.mem_cons_self, member⟩
      | cons next pieces =>
          rw [List.intercalate_cons_cons, List.mem_append, List.mem_append] at member
          rcases member with (here | between) | later
          · exact Or.inr ⟨piece, List.mem_cons_self, here⟩
          · exact Or.inl between
          · rcases induction later with between | ⟨other, known, holds⟩
            · exact Or.inl between
            · exact Or.inr ⟨other, List.mem_cons_of_mem piece known, holds⟩

end Playback.Text
