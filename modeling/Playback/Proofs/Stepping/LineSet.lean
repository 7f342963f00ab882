import Mathlib.Data.Finset.Sort
import Playback.Stepping.LineSet

/-!
# Laws of sets of lines

A set of lines is known by its members, and its members are kept in one way only.  Hence a
line that is put in and taken out again leaves no trace, which is what lets a session
stop at a line for the length of one movement.  To reason about the members alone there is the
finite set of them, of which the list is the sorted listing.
-/

namespace Playback

/-- Putting a line into a list that has it already changes nothing. -/
theorem insertLine_eq_self {line : Nat} {lines : List Nat}
    (ascending : lines.Pairwise (· < ·)) (member : line ∈ lines) :
    insertLine line lines = lines := by
  induction lines with
  | nil => simp at member
  | cons first rest induction =>
      obtain ⟨least, tail⟩ := List.pairwise_cons.mp ascending
      rw [insertLine]
      rcases List.mem_cons.mp member with rfl | later
      · simp
      · have above : first < line := least line later
        rw [if_neg (by omega), if_neg (by omega), induction tail later]

/-- Taking out a line that was put into a list without it restores the list. -/
theorem filter_insertLine {line : Nat} {lines : List Nat} (absent : line ∉ lines) :
    (insertLine line lines).filter (· != line) = lines := by
  induction lines with
  | nil => simp [insertLine]
  | cons first rest induction =>
      have different : line ≠ first := List.ne_of_not_mem_cons absent
      have absentLater : line ∉ rest := List.not_mem_of_not_mem_cons absent
      have kept : rest.filter (· != line) = rest := by
        rw [List.filter_eq_self]
        intro other member
        have distinct : other ≠ line := by
          rintro rfl
          exact absentLater member
        simpa using distinct
      by_cases below : line < first
      · rw [insertLine, if_pos below]
        simp [kept, Ne.symm different]
      · rw [insertLine, if_neg below, if_neg different]
        simp [induction absentLater, Ne.symm different]

namespace LineSet

variable {set : LineSet} {line member : Nat}

/-- A set of lines is the list of its members. -/
theorem eq_of_toList_eq {left right : LineSet} (equal : left.toList = right.toList) :
    left = right := by
  cases left
  cases right
  cases equal
  rfl

theorem contains_iff : set.contains line = true ↔ line ∈ set.toList := by
  simp [contains]

theorem mem_toList_insert :
    member ∈ (set.insert line).toList ↔ member = line ∨ member ∈ set.toList :=
  mem_insertLine

theorem mem_toList_erase :
    member ∈ (set.erase line).toList ↔ member ∈ set.toList ∧ member ≠ line := by
  simp [erase]

@[simp]
theorem toList_empty : LineSet.empty.toList = [] :=
  rfl

/-- The members of a set made of a list are the entries of the list. -/
theorem mem_toList_ofList {lines : List Nat} :
    member ∈ (ofList lines).toList ↔ member ∈ lines := by
  have general : ∀ set : LineSet,
      member ∈ (lines.foldl insert set).toList ↔ member ∈ lines ∨ member ∈ set.toList := by
    induction lines with
    | nil => simp
    | cons first rest induction =>
        intro set
        rw [List.foldl_cons, induction, mem_toList_insert, List.mem_cons]
        tauto
  rw [ofList, general]
  simp

/-- A member that is put in again changes nothing. -/
theorem insert_of_contains (member : set.contains line = true) :
    set.insert line = set :=
  eq_of_toList_eq (insertLine_eq_self set.ascending (contains_iff.mp member))

/-- A line that is not in the set cannot be taken out of it. -/
theorem erase_of_absent (absent : set.contains line = false) : set.erase line = set := by
  apply eq_of_toList_eq
  refine List.filter_eq_self.mpr fun other member => ?_
  have distinct : other ≠ line := by
    rintro rfl
    simp [contains_iff.mpr member] at absent
  simpa using distinct

/-- A line that is put in and taken out again leaves no trace. -/
theorem erase_insert (absent : set.contains line = false) :
    (set.insert line).erase line = set := by
  apply eq_of_toList_eq
  apply filter_insertLine
  intro member
  simp [contains_iff.mpr member] at absent

/-- The members of a set of lines, without their listing. -/
def toFinset (set : LineSet) : Finset Nat :=
  set.toList.toFinset

@[simp]
theorem mem_toFinset : member ∈ set.toFinset ↔ member ∈ set.toList :=
  List.mem_toFinset

theorem nodup_toList (set : LineSet) : set.toList.Nodup :=
  set.ascending.imp Nat.ne_of_lt

/-- The list of a set of lines is the ascending listing of its members. -/
theorem sort_toFinset (set : LineSet) : set.toFinset.sort = set.toList :=
  (List.toFinset_sort (· ≤ ·) set.nodup_toList).mpr (set.ascending.imp Nat.le_of_lt)

theorem eq_of_toFinset_eq {left right : LineSet} (equal : left.toFinset = right.toFinset) :
    left = right := by
  apply eq_of_toList_eq
  rw [← sort_toFinset, ← sort_toFinset, equal]

theorem card_toFinset (set : LineSet) : set.toFinset.card = set.size :=
  List.toFinset_card_of_nodup set.nodup_toList

theorem contains_eq_decide (set : LineSet) (line : Nat) :
    set.contains line = decide (line ∈ set.toFinset) := by
  rw [Bool.eq_iff_iff, contains_iff, decide_eq_true_eq, mem_toFinset]

@[simp]
theorem toFinset_insert : (set.insert line).toFinset = Insert.insert line set.toFinset := by
  ext member
  simp [mem_toList_insert]

@[simp]
theorem toFinset_erase : (set.erase line).toFinset = set.toFinset.erase line := by
  ext member
  simp [mem_toList_erase, and_comm]

@[simp]
theorem toFinset_ofList {lines : List Nat} : (ofList lines).toFinset = lines.toFinset := by
  ext member
  simp [mem_toList_ofList]

end LineSet

end Playback
