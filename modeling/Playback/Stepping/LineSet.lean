/-!
# Sets of lines

The breakpoints of a session, as the strictly ascending list of their lines, so that
equal sets are equal values and the list is the one to show.
-/

namespace Playback

/-- The list with `line` put in its place, once. -/
def insertLine (line : Nat) : List Nat → List Nat
  | [] => [line]
  | first :: rest =>
    if line < first then
      line :: first :: rest
    else if line = first then
      first :: rest
    else
      first :: insertLine line rest

theorem mem_insertLine {line member : Nat} {lines : List Nat} :
    member ∈ insertLine line lines ↔ member = line ∨ member ∈ lines := by
  induction lines with
  | nil => simp [insertLine]
  | cons first rest ih =>
    rw [insertLine]
    split
    · simp
    · split <;> simp_all [or_left_comm]

theorem ascending_insertLine {line : Nat} {lines : List Nat}
    (ascending : lines.Pairwise (· < ·)) : (insertLine line lines).Pairwise (· < ·) := by
  induction lines with
  | nil => simp [insertLine]
  | cons first rest ih =>
    obtain ⟨least, tail⟩ := List.pairwise_cons.1 ascending
    rw [insertLine]
    split
    case isTrue below =>
      refine List.pairwise_cons.2 ⟨fun member known => ?_, ascending⟩
      rcases List.mem_cons.1 known with rfl | later
      · exact below
      · exact Nat.lt_trans below (least member later)
    case isFalse notBelow =>
      split
      · exact ascending
      · refine List.pairwise_cons.2 ⟨fun member known => ?_, ih tail⟩
        rcases mem_insertLine.1 known with rfl | old
        · omega
        · exact least member old

/-- A finite set of lines. -/
structure LineSet where
  toList : List Nat := []
  ascending : toList.Pairwise (· < ·) := by simp
  deriving DecidableEq, Repr

namespace LineSet

def empty : LineSet := {}

instance : Inhabited LineSet := ⟨empty⟩

def contains (set : LineSet) (line : Nat) : Bool :=
  set.toList.contains line

def size (set : LineSet) : Nat :=
  set.toList.length

/-- The set with one more member, if the line is new. -/
def insert (set : LineSet) (line : Nat) : LineSet where
  toList := insertLine line set.toList
  ascending := ascending_insertLine set.ascending

def erase (set : LineSet) (line : Nat) : LineSet where
  toList := set.toList.filter (· != line)
  ascending := set.ascending.filter _

def ofList (lines : List Nat) : LineSet :=
  lines.foldl insert empty

end LineSet

end Playback
