import Playback.Proofs.Stepping.Following

/-!
# Repeating an action

A client that repeats one action until it no longer moves visits some of the positions ahead.  The
main statement says which: stepping visits all of them, continuing those with a breakpoint,
stepping over those that are no deeper than any position since the start, and stepping out those
that are shallower than every position since the start.  It also says that the client comes to an
end, and with which answer.

An action looks only at the position it starts from.  That it need not look at those before rests
on the laws of which position follows which, and with them the four actions need one induction along
the walk.
-/

namespace Playback

namespace Course

/-- Whether repeating an action from `start` on is to visit `index`. -/
def Visits (course : Course) (action : Action) (start index : Nat) : Prop :=
  start < index ∧ index < course.lines.length ∧
    match action with
    | .step => True
    | .stepOver => ∀ earlier, start ≤ earlier → earlier < index →
        course.depthAt index ≤ course.depthAt earlier
    | .stepOut => ∀ earlier, start ≤ earlier → earlier < index →
        course.depthAt index < course.depthAt earlier
    | .continue => course.breaksAt index = true

/-- Repeating an action from an index on, with the indices visited and the last answer. -/
inductive Walk (course : Course) (action : Action) :
    (index : Nat) → (visited : List Nat) → (ending : Landing) → Prop
  | ended {index : Nat} {ending : Landing} (lands : course.land action index = ending)
      (stays : ∀ target, ending ≠ .moved target) :
      Walk course action index [] ending
  | moved {index target : Nat} {visited : List Nat} {ending : Landing}
      (lands : course.land action index = .moved target)
      (onward : Walk course action target visited ending) :
      Walk course action index (target :: visited) ending

variable {course : Course} {action : Action} {start index target : Nat} {visited : List Nat}
  {ending : Landing}

/-- What is to be visited follows every position since the start. -/
theorem visits_iff :
    course.Visits action start index ↔
      start < index ∧ index < course.lines.length ∧
        ∀ earlier, start ≤ earlier → earlier < index → course.Follows action earlier index := by
  refine and_congr_right fun ahead => and_congr_right fun _ => ?_
  cases action with
  | step => exact ⟨fun _ _ _ _ => trivial, fun _ => trivial⟩
  | stepOver => exact Iff.rfl
  | stepOut => exact Iff.rfl
  | «continue» => exact ⟨fun breaks _ _ _ => breaks, fun all => all start (Nat.le_refl _) ahead⟩

theorem Walk.unique {visited' : List Nat} {ending' : Landing}
    (walk : course.Walk action index visited ending)
    (other : course.Walk action index visited' ending') :
    visited' = visited ∧ ending' = ending := by
  induction walk generalizing visited' with
  | ended lands stays =>
      cases other with
      | ended lands' _ => exact ⟨rfl, lands'.symm.trans lands⟩
      | moved lands' _ => exact (stays _ (lands.symm.trans lands')).elim
  | moved lands _ induction =>
      cases other with
      | ended lands' stays' => exact (stays' _ (lands'.symm.trans lands)).elim
      | moved lands' onward' =>
          obtain rfl := Landing.moved.inj (lands.symm.trans lands')
          obtain ⟨rfl, rfl⟩ := induction onward'
          exact ⟨rfl, rfl⟩

/-- Every walk comes to an end, because it moves ahead inside the recording. -/
theorem exists_walk (course : Course) (action : Action)
    (aligned : course.depths.length = course.lines.length) (inside : index < course.lines.length) :
    ∃ visited ending, course.Walk action index visited ending := by
  induction left : course.lines.length - index using Nat.strongRecOn generalizing index with
  | ind left induction =>
      cases lands : course.land action index with
      | moved target =>
          obtain ⟨ahead, insideTarget⟩ := land_moved aligned inside lands
          obtain ⟨visited, ending, onward⟩ :=
            induction (course.lines.length - target) (by omega) insideTarget rfl
          exact ⟨target :: visited, ending, .moved lands onward⟩
      | pastEnd => exact ⟨[], .pastEnd, .ended lands fun _ => Landing.noConfusion⟩
      | topLevel => exact ⟨[], .topLevel, .ended lands fun _ => Landing.noConfusion⟩

/--
After landing on the first position that follows, what is left to be visited from there is what was
to be visited before, without the position landed on.
-/
theorem visits_of_land (aligned : course.depths.length = course.lines.length)
    (inside : start < course.lines.length)
    (lands : course.land action start = .moved target) :
    course.Visits action start index ↔ index = target ∨ course.Visits action target index := by
  obtain ⟨ahead, insideTarget, follows, passed⟩ := (land_eq_moved_iff aligned inside).mp lands
  have since : ∀ earlier, start ≤ earlier → earlier < target →
      course.Follows action earlier target := by
    intro earlier after before
    rcases Nat.lt_or_eq_of_le after with between | rfl
    · exact follows.of_passed (passed earlier between before)
    · exact follows
  rw [visits_iff, visits_iff]
  constructor
  · rintro ⟨later, insideIndex, all⟩
    rcases Nat.lt_trichotomy index target with before | same | after
    · exact (passed index later before (all start (Nat.le_refl start) later)).elim
    · exact Or.inl same
    · exact Or.inr ⟨after, insideIndex, fun earlier reached before =>
        all earlier (Nat.le_trans (Nat.le_of_lt ahead) reached) before⟩
  · rintro (rfl | ⟨later, insideIndex, all⟩)
    · exact ⟨ahead, insideTarget, since⟩
    · refine ⟨Nat.lt_trans ahead later, insideIndex, fun earlier reached before => ?_⟩
      rcases Nat.lt_or_ge earlier target with passedBy | reachedTarget
      · exact (since earlier reached passedBy).trans (all target (Nat.le_refl target) later)
      · exact all earlier reachedTarget before

/-- A walk visits exactly what is to be visited. -/
theorem Walk.mem_iff (walk : course.Walk action start visited ending)
    (aligned : course.depths.length = course.lines.length)
    (inside : start < course.lines.length) :
    index ∈ visited ↔ course.Visits action start index := by
  induction walk with
  | ended lands stays =>
      simp only [List.not_mem_nil, false_iff, visits_iff]
      rintro ⟨ahead, insideIndex, all⟩
      rw [← lands] at stays
      exact not_follows_of_land_ne aligned inside stays ahead insideIndex
        (all _ (Nat.le_refl _) ahead)
  | moved lands _ induction =>
      rw [List.mem_cons, visits_of_land aligned inside lands,
        induction (land_inside aligned lands)]

/-- A walk visits its indices in ascending order. -/
theorem Walk.ascending (walk : course.Walk action start visited ending)
    (aligned : course.depths.length = course.lines.length)
    (inside : start < course.lines.length) :
    (start :: visited).Pairwise (· < ·) := by
  induction walk with
  | ended _ _ => exact List.pairwise_singleton _ _
  | @moved index target visited _ lands _ induction =>
      obtain ⟨ahead, insideTarget⟩ := land_moved aligned inside lands
      have ascending := induction insideTarget
      refine List.pairwise_cons.mpr ⟨?_, ascending⟩
      intro later member
      rcases List.mem_cons.mp member with rfl | rest
      · exact ahead
      · exact Nat.lt_trans ahead ((List.pairwise_cons.mp ascending).1 later rest)

/-- A walk ends past the end, or by stepping out at depth zero, as its last position has it. -/
theorem Walk.ending_eq (walk : course.Walk action start visited ending)
    (aligned : course.depths.length = course.lines.length)
    (inside : start < course.lines.length) :
    ending =
      if action = .stepOut ∧ course.depthAt (visited.getLastD start) = 0 then .topLevel
      else .pastEnd := by
  induction walk with
  | @ended index ending lands stays =>
      have topLevel : ending = .topLevel ↔ action = .stepOut ∧ course.depthAt index = 0 := by
        rw [← lands]
        exact land_eq_topLevel_iff aligned inside
      rw [List.getLastD_nil]
      split
      case isTrue atTop => exact topLevel.mpr atTop
      case isFalse below =>
        cases ending with
        | moved target => exact (stays target rfl).elim
        | pastEnd => rfl
        | topLevel => exact (below (topLevel.mp rfl)).elim
  | moved lands _ induction =>
      rw [induction (land_inside aligned lands), List.getLastD_cons]

/--
Repeating an action comes to an end.  It visits, in ascending order, each once, exactly the
positions ahead of the start that the action is to visit.  It ends past the end, except that
stepping out ends at the top level exactly if the last position reached has depth zero.
-/
theorem walk_visits (course : Course) (action : Action) (start : Nat)
    (aligned : course.depths.length = course.lines.length)
    (inside : start < course.lines.length) :
    ∃ visited ending, course.Walk action start visited ending ∧
      (∀ visited' ending', course.Walk action start visited' ending' →
        visited' = visited ∧ ending' = ending) ∧
      visited.Pairwise (· < ·) ∧
      (∀ index, index ∈ visited ↔ course.Visits action start index) ∧
      ending =
        if action = .stepOut ∧ course.depthAt (visited.getLastD start) = 0 then .topLevel
        else .pastEnd := by
  obtain ⟨visited, ending, walk⟩ := course.exists_walk action aligned inside
  exact ⟨visited, ending, walk, fun _ _ other => walk.unique other,
    (List.pairwise_cons.mp (walk.ascending aligned inside)).2,
    fun _ => walk.mem_iff aligned inside, walk.ending_eq aligned inside⟩

/-- Stepping out of a call in a call: each of the two is left once, and then there is none. -/
theorem walk_out_of_two_calls :
    let course : Course :=
      { lines := [5, 1, 2, 3, 2, 4, 6], depths := [0, 1, 1, 2, 1, 1, 0], breakpoints := .empty }
    course.Walk .stepOut 3 [4, 6] .topLevel ∧
      ∀ index, index ∈ [4, 6] ↔ course.Visits .stepOut 3 index := by
  intro course
  have walk : course.Walk .stepOut 3 [4, 6] .topLevel :=
    .moved rfl (.moved rfl (.ended rfl fun _ => Landing.noConfusion))
  obtain ⟨visited, ending, _, unique, _, visits, _⟩ :=
    walk_visits course .stepOut 3 (by decide) (by decide)
  obtain ⟨rfl, rfl⟩ := unique _ _ walk
  exact ⟨walk, visits⟩

end Course

end Playback
