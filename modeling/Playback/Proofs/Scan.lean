import Mathlib.Data.List.Basic
import Mathlib.Order.Bounds.Basic

/-!
# First accepted positions

Looking a line up and stepping forward are both scans: from some position on, the first
entry that a test accepts.  This module says once what such a scan finds, in terms of positions
of the whole list, so that nobody else has to reason about offsets into the part scanned.
-/

namespace Playback

/-- `index` is the first position at or after `start` whose entry is accepted. -/
structure FirstFrom (entries : List Nat) (accepts : Nat → Bool)
    (start index : Nat) : Prop where
  start_le : start ≤ index
  accepted : ∃ entry, entries[index]? = some entry ∧ accepts entry = true
  refused :
    ∀ earlier, start ≤ earlier → earlier < index →
      ∀ entry, entries[earlier]? = some entry → accepts entry = false

namespace FirstFrom

variable {entries : List Nat} {accepts : Nat → Bool} {start index : Nat}

theorem lt_length (first : FirstFrom entries accepts start index) :
    index < entries.length := by
  obtain ⟨entry, held, _⟩ := first.accepted
  exact (List.getElem?_eq_some_iff.mp held).1

/-- There is at most one first accepted position. -/
theorem unique {other : Nat}
    (first : FirstFrom entries accepts start index)
    (second : FirstFrom entries accepts start other) :
    index = other := by
  obtain ⟨entry, held, accepted⟩ := first.accepted
  obtain ⟨entry', held', accepted'⟩ := second.accepted
  rcases Nat.lt_trichotomy index other with below | equal | above
  · have refused := second.refused index first.start_le below entry held
    simp [accepted] at refused
  · exact equal
  · have refused := first.refused other second.start_le above entry' held'
    simp [accepted'] at refused

end FirstFrom

/-- The first accepted position is the least of them. -/
theorem firstFrom_iff_isLeast
    {entries : List Nat} {accepts : Nat → Bool} {start index : Nat} :
    FirstFrom entries accepts start index ↔
      IsLeast
        { position | start ≤ position ∧
          ∃ entry, entries[position]? = some entry ∧ accepts entry = true }
        index := by
  constructor
  · intro first
    refine ⟨⟨first.start_le, first.accepted⟩, ?_⟩
    rintro position ⟨reached, entry, held, accepted⟩
    apply Nat.le_of_not_lt
    intro before
    have refused := first.refused position reached before entry held
    simp [accepted] at refused
  · rintro ⟨⟨reached, accepted⟩, least⟩
    refine ⟨reached, accepted, ?_⟩
    intro earlier reachedEarlier before entry held
    rw [Bool.eq_false_iff]
    intro acceptedEarlier
    exact Nat.not_le_of_lt before (least ⟨reachedEarlier, entry, held, acceptedEarlier⟩)

/-- A scan that finds an offset finds the first accepted position. -/
theorem findIdx?_drop_eq_some_iff
    {entries : List Nat} {accepts : Nat → Bool} {start offset : Nat} :
    (entries.drop start).findIdx? accepts = some offset ↔
      FirstFrom entries accepts start (start + offset) := by
  rw [List.findIdx?_eq_some_iff_getElem]
  constructor
  · rintro ⟨inside, accepted, refused⟩
    rw [List.length_drop] at inside
    refine ⟨Nat.le_add_right _ _, ⟨_, List.getElem?_eq_getElem (by omega), ?_⟩, ?_⟩
    · simpa using accepted
    · intro earlier reached before entry held
      have bound : earlier < entries.length := by omega
      have notAccepted := refused (earlier - start) (by omega)
      rw [List.getElem_drop] at notAccepted
      rw [List.getElem?_eq_getElem bound, Option.some.injEq] at held
      simpa [Nat.add_sub_cancel' reached, held] using notAccepted
  · intro first
    have inside := first.lt_length
    obtain ⟨entry, held, accepted⟩ := first.accepted
    obtain ⟨_, rfl⟩ := List.getElem?_eq_some_iff.mp held
    refine ⟨by rw [List.length_drop]; omega, by simpa using accepted, ?_⟩
    intro earlier before
    have notAccepted :=
      first.refused (start + earlier) (Nat.le_add_right _ _) (by omega) _
        (List.getElem?_eq_getElem (by omega))
    simpa using notAccepted

/-- A scan that finds nothing leaves no accepted position behind. -/
theorem findIdx?_drop_eq_none_iff
    {entries : List Nat} {accepts : Nat → Bool} {start : Nat} :
    (entries.drop start).findIdx? accepts = none ↔
      ∀ index, start ≤ index →
        ∀ entry, entries[index]? = some entry → accepts entry = false := by
  rw [List.findIdx?_eq_none_iff]
  constructor
  · intro refused index reached entry held
    apply refused
    rw [List.mem_iff_getElem?]
    exact ⟨index - start, by rw [List.getElem?_drop, Nat.add_sub_cancel' reached, held]⟩
  · intro refused entry member
    obtain ⟨offset, held⟩ := List.mem_iff_getElem?.mp member
    rw [List.getElem?_drop] at held
    exact refused (start + offset) (Nat.le_add_right _ _) entry held

end Playback
