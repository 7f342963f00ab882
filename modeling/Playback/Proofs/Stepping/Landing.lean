import Playback.Proofs.Scan
import Playback.Proofs.Word
import Playback.Stepping.Landing

/-!
# What an action answers

An action answers the least position ahead that it admits.  If it admits none it runs past the
end, except that stepping out at depth zero is turned down before anything is looked at.  The
main statement says so for every course: the index may lie anywhere, and there may be more depths
than lines or fewer.  It also compares the actions with each other.

One index is an exception.  No 64-bit number follows the greatest one, so from there stepping and
continuing begin again at the first position.  A session never stands there, because its index lies
inside its recording; what holds of every index with a successor is all that is asked for elsewhere.

Where every position has both a line and a depth, a movement ends inside the recording.  Nothing
else about the four actions is needed to see that a session always stands on a position of its
recording.
-/

namespace Playback

open Stepping

variable {index target : Nat}

section Scan

variable {entries : List Nat} {accepts : Nat → Bool}

theorem Stepping.next_of_lt_length (inside : index < entries.length) :
    next entries index = index + 1 :=
  if_pos inside

theorem Stepping.next_of_lt_maxWord (below : index < Text.maxWord) :
    next entries index = index + 1 := by
  rw [next, Word.add_eq_of_le below, ite_self]

/-- From the greatest index a list is looked through from its beginning. -/
theorem Stepping.next_maxWord (short : entries.length ≤ Text.maxWord) :
    next entries Text.maxWord = 0 := by
  rw [next, if_neg (Nat.not_lt.mpr short), Word.add_maxWord_one]

/-- A scan forward lands on the first accepted position from the next one on. -/
theorem firstAfter_eq_moved_iff :
    firstAfter entries index accepts = .moved target ↔
      FirstFrom entries accepts (next entries index) target := by
  rw [firstAfter]
  cases found : (entries.drop (next entries index)).findIdx? accepts with
  | none =>
      simp only [reduceCtorEq, false_iff]
      intro first
      obtain ⟨entry, held, accepted⟩ := first.accepted
      have refused :=
        findIdx?_drop_eq_none_iff.mp found target first.start_le entry held
      simp [accepted] at refused
  | some offset =>
      have first := findIdx?_drop_eq_some_iff.mp found
      simp only [Landing.moved.injEq]
      constructor
      · rintro rfl
        exact first
      · intro second
        exact first.unique second

/-- A scan forward runs past the end where it accepts nothing ahead. -/
theorem firstAfter_eq_pastEnd_iff :
    firstAfter entries index accepts = .pastEnd ↔
      ∀ later, next entries index ≤ later →
        ∀ entry, entries[later]? = some entry → accepts entry = false := by
  rw [firstAfter]
  cases found : (entries.drop (next entries index)).findIdx? accepts with
  | none =>
      simp only [true_iff]
      exact findIdx?_drop_eq_none_iff.mp found
  | some offset =>
      simp only [reduceCtorEq, false_iff]
      intro refused
      cases found.symm.trans (findIdx?_drop_eq_none_iff.mpr refused)

theorem firstAfter_ne_topLevel : firstAfter entries index accepts ≠ .topLevel := by
  rw [firstAfter]
  split <;> exact Landing.noConfusion

end Scan

/-- Looking for a breakpoint is a scan, even where there is none to be found. -/
theorem continueTo_eq_firstAfter (lines : List Nat) (breakpoints : LineSet) (index : Nat) :
    continueTo lines breakpoints index = firstAfter lines index breakpoints.contains := by
  rw [continueTo]
  split
  case isTrue empty =>
    refine (firstAfter_eq_pastEnd_iff.mpr fun later _ line _ => ?_).symm
    rw [LineSet.contains, List.isEmpty_iff.mp empty, List.contains_nil]
  case isFalse => rfl

/-! ## One action -/

namespace Course

/-- Whether an action that starts from `index` may stop at `later`. -/
def Admits (course : Course) (action : Action) (index later : Nat) : Prop :=
  index < later ∧
    match action with
    | .step => later < course.lines.length
    | .stepOver => ∃ current depth,
        course.depths[index]? = some current ∧ course.depths[later]? = some depth ∧
          depth ≤ current
    | .stepOut => ∃ current depth,
        course.depths[index]? = some current ∧ course.depths[later]? = some depth ∧
          depth < current
    | .continue => ∃ line,
        course.lines[later]? = some line ∧ course.breakpoints.contains line = true

/-- Whether there is no call that an action could step out of. -/
def AtTop (course : Course) (action : Action) (index : Nat) : Prop :=
  action = .stepOut ∧ course.depths[index]? = some 0

/-- The answer that an action is to give. -/
inductive Answers (course : Course) (action : Action) (index : Nat) : Landing → Prop
  | moved {target : Nat}
      (least : IsLeast { later | course.Admits action index later } target) :
      Answers course action index (.moved target)
  | pastEnd (below : ¬course.AtTop action index)
      (none : ∀ later, ¬course.Admits action index later) :
      Answers course action index .pastEnd
  | topLevel (top : course.AtTop action index) : Answers course action index .topLevel

variable {course : Course} {action : Action} {answer : Landing}

theorem Admits.not_atTop (admits : course.Admits action index target) :
    ¬course.AtTop action index := by
  rintro ⟨rfl, top⟩
  obtain ⟨_, current, depth, here, _, below⟩ := admits
  obtain rfl := Option.some.inj (top.symm.trans here)
  exact Nat.not_lt_zero depth below

theorem not_atTop_of_ne (other : action ≠ .stepOut) : ¬course.AtTop action index :=
  fun top => other top.1

/-- At most one answer is to be given. -/
theorem Answers.unique {answer' : Landing} (answers : course.Answers action index answer)
    (answers' : course.Answers action index answer') : answer = answer' := by
  cases answers with
  | moved least =>
      cases answers' with
      | moved least' => rw [least.unique least']
      | pastEnd _ none => exact (none _ least.1).elim
      | topLevel top => exact (Admits.not_atTop least.1 top).elim
  | pastEnd below none =>
      cases answers' with
      | moved least' => exact (none _ least'.1).elim
      | pastEnd _ _ => rfl
      | topLevel top => exact (below top).elim
  | topLevel top =>
      cases answers' with
      | moved least' => exact (Admits.not_atTop least'.1 top).elim
      | pastEnd below _ => exact (below top).elim
      | topLevel _ => rfl

/-- A scan for what an action admits gives the answer that the action is to give. -/
theorem answers_firstAfter {entries : List Nat} {accepts : Nat → Bool}
    (successor : next entries index = index + 1) (below : ¬course.AtTop action index)
    (admits : ∀ later, course.Admits action index later ↔
      index < later ∧ ∃ entry, entries[later]? = some entry ∧ accepts entry = true) :
    course.Answers action index (firstAfter entries index accepts) := by
  cases found : firstAfter entries index accepts with
  | moved target =>
      have first := firstAfter_eq_moved_iff.mp found
      rw [successor] at first
      refine .moved ?_
      simp only [admits]
      exact firstFrom_iff_isLeast.mp first
  | pastEnd =>
      refine .pastEnd below fun later admitted => ?_
      obtain ⟨ahead, entry, held, accepted⟩ := (admits later).mp admitted
      have reached : next entries index ≤ later := successor ▸ ahead
      have refused := firstAfter_eq_pastEnd_iff.mp found later reached entry held
      simp [accepted] at refused
  | topLevel => exact (firstAfter_ne_topLevel found).elim

/-- Every action gives the answer that it is to give, from an index that another one follows. -/
theorem answers_land (action : Action) (successor : next course.lines index = index + 1) :
    course.Answers action index (course.land action index) := by
  have successorOfDepth : ∀ {current}, course.depths[index]? = some current →
      next course.depths index = index + 1 :=
    fun here => next_of_lt_length (List.getElem?_eq_some_iff.mp here).1
  cases action with
  | step =>
      rw [land, step, successor]
      split
      case isTrue inside =>
        exact .moved ⟨⟨Nat.lt_succ_self index, inside⟩, fun _ admitted => admitted.1⟩
      case isFalse last =>
        refine .pastEnd (not_atTop_of_ne Action.noConfusion) ?_
        rintro later ⟨ahead, inside⟩
        exact last (Nat.lt_of_le_of_lt ahead inside)
  | stepOver =>
      rw [land, stepOver]
      split
      case h_1 missing =>
        refine .pastEnd (not_atTop_of_ne Action.noConfusion) ?_
        rintro later ⟨_, current, depth, here, _⟩
        cases missing.symm.trans here
      case h_2 current here =>
        refine answers_firstAfter (successorOfDepth here) (not_atTop_of_ne Action.noConfusion)
          fun later => ?_
        simp [Admits, here]
  | stepOut =>
      rw [land, stepOut]
      split
      case h_1 missing =>
        refine .pastEnd (fun top => ?_) ?_
        · cases missing.symm.trans top.2
        · rintro later ⟨_, current, depth, here, _⟩
          cases missing.symm.trans here
      case h_2 top => exact .topLevel ⟨rfl, top⟩
      case h_3 current deep here =>
        refine answers_firstAfter (successorOfDepth here) (fun top => ?_) fun later => ?_
        · exact deep (Option.some.inj (here.symm.trans top.2))
        · simp [Admits, here]
  | «continue» =>
      rw [land, continueTo_eq_firstAfter]
      exact answers_firstAfter successor (not_atTop_of_ne Action.noConfusion) fun _ => Iff.rfl

section Successor

variable (successor : next course.lines index = index + 1)

include successor

theorem land_eq_iff_answers :
    course.land action index = answer ↔ course.Answers action index answer := by
  constructor
  · rintro rfl
    exact answers_land action successor
  · exact (answers_land action successor).unique

/-- An action moves to the least position that it admits. -/
theorem land_eq_moved_iff_isLeast :
    course.land action index = .moved target ↔
      IsLeast { later | course.Admits action index later } target := by
  rw [land_eq_iff_answers successor]
  constructor
  · rintro (least | _ | _)
    exact least
  · exact .moved

/-- An action that admits nothing runs past the end, unless it is turned down at the top. -/
theorem land_eq_pastEnd_iff :
    course.land action index = .pastEnd ↔
      ¬course.AtTop action index ∧ ∀ later, ¬course.Admits action index later := by
  rw [land_eq_iff_answers successor]
  constructor
  · rintro (_ | ⟨below, none⟩ | _)
    exact ⟨below, none⟩
  · rintro ⟨below, none⟩
    exact .pastEnd below none

theorem land_eq_topLevel_iff_atTop :
    course.land action index = .topLevel ↔ course.AtTop action index := by
  rw [land_eq_iff_answers successor]
  constructor
  · rintro (_ | _ | top)
    exact top
  · exact .topLevel

theorem land_step_eq_moved_iff :
    course.land .step index = .moved target ↔
      target = index + 1 ∧ index + 1 < course.lines.length := by
  rw [land, step, successor]
  split
  case isTrue inside => simp [inside, eq_comm]
  case isFalse last => simp [last]

end Successor

/-- Continuing moves to the first breakpoint from the next position on. -/
theorem land_continue_eq_moved_iff :
    course.land .continue index = .moved target ↔
      IsLeast { later | next course.lines index ≤ later ∧ ∃ line,
        course.lines[later]? = some line ∧ course.breakpoints.contains line = true } target := by
  rw [land, continueTo_eq_firstAfter, firstAfter_eq_moved_iff, firstFrom_iff_isLeast]

theorem land_continue_eq_pastEnd_iff :
    course.land .continue index = .pastEnd ↔
      ∀ later, next course.lines index ≤ later →
        ∀ line, course.lines[later]? = some line → course.breakpoints.contains line = false := by
  rw [land, continueTo_eq_firstAfter, firstAfter_eq_pastEnd_iff]

theorem land_continue_ne_topLevel : course.land .continue index ≠ .topLevel := by
  rw [land, continueTo_eq_firstAfter]
  exact firstAfter_ne_topLevel

/-- A position that an action lands on has a line or a depth. -/
theorem lt_of_land {bound : Nat} (moved : course.land action index = .moved target)
    (fewLines : course.lines.length ≤ bound) (fewDepths : course.depths.length ≤ bound) :
    target < bound := by
  have found : ∀ {entries : List Nat} {accepts : Nat → Bool},
      firstAfter entries index accepts = .moved target → entries.length ≤ bound →
        target < bound :=
    fun found few => Nat.lt_of_lt_of_le (firstAfter_eq_moved_iff.mp found).lt_length few
  cases action with
  | step =>
      rw [land, step] at moved
      split at moved
      case isTrue inside =>
        obtain rfl := Landing.moved.inj moved
        exact Nat.lt_of_lt_of_le inside fewLines
      case isFalse => cases moved
  | stepOver =>
      rw [land, stepOver] at moved
      split at moved
      case h_1 => cases moved
      case h_2 => exact found moved fewDepths
  | stepOut =>
      rw [land, stepOut] at moved
      split at moved
      case h_1 => cases moved
      case h_2 => cases moved
      case h_3 => exact found moved fewDepths
  | «continue» =>
      rw [land, continueTo_eq_firstAfter] at moved
      exact found moved fewLines

/-- Where every position has both a line and a depth, an action lands inside the recording. -/
theorem land_inside (aligned : course.depths.length = course.lines.length)
    (moved : course.land action index = .moved target) : target < course.lines.length :=
  lt_of_land moved (Nat.le_refl _) (Nat.le_of_eq aligned)

/-- From a position of the recording an action lands on a later one. -/
theorem land_moved (aligned : course.depths.length = course.lines.length)
    (inside : index < course.lines.length) (moved : course.land action index = .moved target) :
    index < target ∧ target < course.lines.length := by
  have least := (land_eq_moved_iff_isLeast (next_of_lt_length inside)).mp moved
  exact ⟨least.1.1, land_inside aligned moved⟩

/-! ## Actions compared -/

/-- Where the next position is no deeper, stepping over is stepping. -/
theorem land_stepOver_eq_step (successor : next course.lines index = index + 1)
    (aligned : course.depths.length = course.lines.length)
    (level : ∀ current next, course.depths[index]? = some current →
      course.depths[index + 1]? = some next → next ≤ current) :
    course.land .stepOver index = course.land .step index := by
  by_cases inside : index + 1 < course.lines.length
  · have insideNext : index + 1 < course.depths.length := aligned ▸ inside
    have here := List.getElem?_eq_getElem (Nat.lt_of_succ_lt insideNext)
    have next := List.getElem?_eq_getElem insideNext
    have admitted : course.Admits .stepOver index (index + 1) :=
      ⟨Nat.lt_succ_self index, _, _, here, next, level _ _ here next⟩
    rw [(land_step_eq_moved_iff successor).mpr ⟨rfl, inside⟩,
      land_eq_moved_iff_isLeast successor]
    exact ⟨admitted, fun _ later => later.1⟩
  · have last : course.land .step index = .pastEnd := by
      rw [land, step, successor]
      exact if_neg inside
    rw [last, land_eq_pastEnd_iff successor]
    refine ⟨not_atTop_of_ne Action.noConfusion, fun later admitted => inside ?_⟩
    obtain ⟨ahead, _, depth, _, there, _⟩ := admitted
    have insideLater := (List.getElem?_eq_some_iff.mp there).1
    exact Nat.lt_of_le_of_lt ahead (aligned ▸ insideLater)

/-- Stepping moves no further than any other action. -/
theorem land_step_le (successor : next course.lines index = index + 1) {first : Nat}
    (stepped : course.land .step index = .moved first)
    (moved : course.land action index = .moved target) : first ≤ target := by
  obtain ⟨rfl, _⟩ := (land_step_eq_moved_iff successor).mp stepped
  exact ((land_eq_moved_iff_isLeast successor).mp moved).1.1

/-- What stepping out admits, stepping over admits too. -/
theorem Admits.stepOver_of_stepOut (admits : course.Admits .stepOut index target) :
    course.Admits .stepOver index target := by
  obtain ⟨ahead, current, depth, here, there, below⟩ := admits
  exact ⟨ahead, current, depth, here, there, Nat.le_of_lt below⟩

/-- From the greatest index an action does what it would do with the first position still ahead. -/
theorem land_maxWord (fewLines : course.lines.length ≤ Text.maxWord)
    (fewDepths : course.depths.length ≤ Text.maxWord) :
    course.land .step Text.maxWord = (if course.lines = [] then .pastEnd else .moved 0) ∧
    course.land .stepOver Text.maxWord = .pastEnd ∧
    course.land .stepOut Text.maxWord = .pastEnd ∧
    (∀ target, course.land .continue Text.maxWord = .moved target ↔
      IsLeast { later | ∃ line, course.lines[later]? = some line ∧
        course.breakpoints.contains line = true } target) ∧
    course.land .continue Text.maxWord ≠ .topLevel := by
  have outside : course.depths[Text.maxWord]? = none := List.getElem?_eq_none fewDepths
  refine ⟨?_, ?_, ?_, fun target => ?_, ?_⟩
  · rw [land, step, next_maxWord fewLines]
    cases course.lines with
    | nil => rfl
    | cons first rest => simp
  · rw [land, stepOver, outside]
  · rw [land, stepOut, outside]
  · rw [land_continue_eq_moved_iff, next_maxWord fewLines]
    simp only [Nat.zero_le, true_and]
  · exact land_continue_ne_topLevel

end Course

end Playback
