import Playback.Proofs.Stepping.Landing

/-!
# Which position an action lands on

For each action there is a relation that says whether one position may follow another.  An
action lands on the first position ahead that follows the current one, and nowhere if none does.
This is all that is to be known of the four actions where they are repeated, or where they are
compared on two recordings.

Two facts about the relation are needed for that: it is transitive, and a position
that is passed over would itself be left for the one landed on.
-/

namespace Playback

namespace Course

/-- The depth of a position. -/
def depthAt (course : Course) (index : Nat) : Nat :=
  course.depths[index]?.getD 0

/-- Whether the line of a position has a breakpoint. -/
def breaksAt (course : Course) (index : Nat) : Bool :=
  course.breakpoints.contains (course.lines[index]?.getD 0)

/-- Whether an action that starts from `index` would stop at `target`, if nothing lay between. -/
def Follows (course : Course) (action : Action) (index target : Nat) : Prop :=
  match action with
  | .step => True
  | .stepOver => course.depthAt target ≤ course.depthAt index
  | .stepOut => course.depthAt target < course.depthAt index
  | .continue => course.breaksAt target = true

variable {course : Course} {action : Action} {index target : Nat}

theorem Follows.trans {middle : Nat} (first : course.Follows action index middle)
    (second : course.Follows action middle target) : course.Follows action index target := by
  cases action with
  | step => trivial
  | stepOver => exact Nat.le_trans second first
  | stepOut => exact Nat.lt_trans second first
  | «continue» => exact second

/-- A position that was passed over would itself have been left for the one landed on. -/
theorem Follows.of_passed {passed : Nat} (follows : course.Follows action index target)
    (notFollows : ¬course.Follows action index passed) :
    course.Follows action passed target := by
  cases action with
  | step => trivial
  | stepOver => exact Nat.le_of_lt (Nat.lt_of_le_of_lt follows (Nat.not_le.mp notFollows))
  | stepOut => exact Nat.lt_of_lt_of_le follows (Nat.not_lt.mp notFollows)
  | «continue» => exact follows

/-- Where every position has a depth, it is found in the list of depths. -/
theorem depths_getElem? (aligned : course.depths.length = course.lines.length)
    (inside : index < course.lines.length) :
    course.depths[index]? = some (course.depthAt index) := by
  rw [depthAt, List.getElem?_eq_getElem (aligned ▸ inside), Option.getD_some]

/-- What is asked of the entry of a position can be asked once the position lies inside. -/
theorem exists_getElem?_iff_getD {entries : List Nat} {accepted : Nat → Prop} :
    (∃ entry, entries[target]? = some entry ∧ accepted entry) ↔
      target < entries.length ∧ accepted (entries[target]?.getD 0) := by
  constructor
  · rintro ⟨entry, held, accepts⟩
    exact ⟨(List.getElem?_eq_some_iff.mp held).1, by rwa [held]⟩
  · rintro ⟨inside, accepts⟩
    have held := List.getElem?_eq_getElem inside
    rw [held] at accepts
    exact ⟨_, held, accepts⟩

/-- Where every position has a depth, an action admits what follows ahead. -/
theorem admits_iff_follows (aligned : course.depths.length = course.lines.length)
    (inside : index < course.lines.length) :
    course.Admits action index target ↔
      index < target ∧ target < course.lines.length ∧ course.Follows action index target := by
  refine and_congr_right fun _ => ?_
  have here := depths_getElem? aligned inside
  cases action with
  | step => exact ⟨fun inside => ⟨inside, trivial⟩, And.left⟩
  | stepOver =>
      rw [← aligned]
      simp only [here, Option.some.injEq, exists_and_left, exists_eq_left']
      exact exists_getElem?_iff_getD
  | stepOut =>
      rw [← aligned]
      simp only [here, Option.some.injEq, exists_and_left, exists_eq_left']
      exact exists_getElem?_iff_getD
  | «continue» => exact exists_getElem?_iff_getD

/-- An action lands on the first position ahead that follows the current one. -/
theorem land_eq_moved_iff (aligned : course.depths.length = course.lines.length)
    (inside : index < course.lines.length) :
    course.land action index = .moved target ↔
      index < target ∧ target < course.lines.length ∧ course.Follows action index target ∧
        ∀ between, index < between → between < target →
          ¬course.Follows action index between := by
  rw [land_eq_moved_iff_isLeast (Stepping.next_of_lt_length inside)]
  constructor
  · rintro ⟨admitted, least⟩
    obtain ⟨ahead, insideTarget, follows⟩ := (admits_iff_follows aligned inside).mp admitted
    refine ⟨ahead, insideTarget, follows, fun between after before followsBetween => ?_⟩
    refine Nat.not_le_of_lt before (least ((admits_iff_follows aligned inside).mpr ?_))
    exact ⟨after, Nat.lt_trans before insideTarget, followsBetween⟩
  · rintro ⟨ahead, insideTarget, follows, passed⟩
    refine ⟨(admits_iff_follows aligned inside).mpr ⟨ahead, insideTarget, follows⟩, ?_⟩
    intro later admitted
    obtain ⟨after, _, followsLater⟩ := (admits_iff_follows aligned inside).mp admitted
    exact Nat.le_of_not_lt fun before => passed later after before followsLater

/-- An action that lands nowhere has nothing ahead that follows. -/
theorem not_follows_of_land_ne (aligned : course.depths.length = course.lines.length)
    (inside : index < course.lines.length)
    (stays : ∀ target, course.land action index ≠ .moved target)
    (ahead : index < target) (insideTarget : target < course.lines.length) :
    ¬course.Follows action index target := by
  intro follows
  have successor := Stepping.next_of_lt_length inside
  have admitted : course.Admits action index target :=
    (admits_iff_follows aligned inside).mpr ⟨ahead, insideTarget, follows⟩
  cases lands : course.land action index with
  | moved target => exact stays target lands
  | pastEnd => exact ((land_eq_pastEnd_iff successor).mp lands).2 target admitted
  | topLevel => exact admitted.not_atTop ((land_eq_topLevel_iff_atTop successor).mp lands)

/-- No call is left to step out of at depth zero, and no other action finds that out. -/
theorem land_eq_topLevel_iff (aligned : course.depths.length = course.lines.length)
    (inside : index < course.lines.length) :
    course.land action index = .topLevel ↔ action = .stepOut ∧ course.depthAt index = 0 := by
  rw [land_eq_topLevel_iff_atTop (Stepping.next_of_lt_length inside), AtTop,
    depths_getElem? aligned inside, Option.some.injEq]

/-- The course of a recording that goes on. -/
def append (course : Course) (lines depths : List Nat) : Course :=
  { course with lines := course.lines ++ lines, depths := course.depths ++ depths }

/-- What follows what does not depend on the positions after the two. -/
theorem follows_append (aligned : course.depths.length = course.lines.length)
    (inside : index < course.lines.length) (insideTarget : target < course.lines.length)
    (lines depths : List Nat) :
    (course.append lines depths).Follows action index target ↔
      course.Follows action index target := by
  have depth : ∀ index, index < course.lines.length →
      (course.append lines depths).depthAt index = course.depthAt index := by
    intro index inside
    rw [depthAt, depthAt, append, List.getElem?_append_left (aligned ▸ inside)]
  cases action with
  | step => exact Iff.rfl
  | stepOver => rw [Follows, Follows, depth target insideTarget, depth index inside]
  | stepOut => rw [Follows, Follows, depth target insideTarget, depth index inside]
  | «continue» =>
      rw [Follows, Follows, breaksAt, breaksAt, append, List.getElem?_append_left insideTarget]

/-- An action lands as before where a recording goes on, unless it ran past the end. -/
theorem land_append {lines depths : List Nat}
    (aligned : course.depths.length = course.lines.length)
    (alignedMore : depths.length = lines.length) (inside : index < course.lines.length)
    (found : course.land action index ≠ .pastEnd) :
    (course.append lines depths).land action index = course.land action index := by
  have aligned' : (course.append lines depths).depths.length =
      (course.append lines depths).lines.length := by
    simp [append, aligned, alignedMore]
  have longer : ∀ {index}, index < course.lines.length →
      index < (course.append lines depths).lines.length := by
    intro index inside
    exact Nat.lt_of_lt_of_le inside (by simp [append])
  cases lands : course.land action index with
  | moved target =>
      obtain ⟨ahead, insideTarget, follows, passed⟩ := (land_eq_moved_iff aligned inside).mp lands
      refine (land_eq_moved_iff aligned' (longer inside)).mpr
        ⟨ahead, longer insideTarget, ?_, fun between after before => ?_⟩
      · exact (follows_append aligned inside insideTarget lines depths).mpr follows
      · have insideBetween := Nat.lt_trans before insideTarget
        rw [follows_append aligned inside insideBetween lines depths]
        exact passed between after before
  | pastEnd => exact (found lands).elim
  | topLevel =>
      obtain ⟨out, zero⟩ := (land_eq_topLevel_iff aligned inside).mp lands
      refine (land_eq_topLevel_iff aligned' (longer inside)).mpr ⟨out, ?_⟩
      rw [depthAt, append, List.getElem?_append_left (aligned ▸ inside), ← depthAt, zero]

end Course

end Playback
