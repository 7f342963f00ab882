import Mathlib.Data.List.Basic
import Playback.Recording.Depth

/-!
# Frames cover a recording

However the depths of a recording come about, guessed or recorded, there is one frame for each
position, it names the line of that position and tells its scope, and the first one has depth zero.
-/

namespace Playback.Recording

variable {table : ScopeTable} {recording : Recording} {frames : List Frame}

theorem length_callsFrom (calls : List Call) (previous : Nat) (lines : List Nat) :
    (callsFrom table calls previous lines).length = lines.length := by
  induction lines generalizing calls previous with
  | nil => rfl
  | cons line rest induction =>
      rw [callsFrom, List.length_cons, List.length_cons, induction]

/-- The open calls are known at every position. -/
theorem length_openCalls (lines : List Nat) :
    (openCalls table lines).length = lines.length := by
  cases lines with
  | nil => rfl
  | cons first rest =>
      rw [openCalls, List.length_cons, List.length_cons, length_callsFrom]

theorem exists_openCalls (table : ScopeTable) {lines : List Nat} {index : Nat}
    (inside : index < lines.length) : ∃ calls, (openCalls table lines)[index]? = some calls := by
  have known : index < (openCalls table lines).length := by
    rw [length_openCalls]
    exact inside
  exact ⟨_, List.getElem?_eq_getElem known⟩

/-- Frames made from lines and as many depths name the lines. -/
theorem map_line_zipWith_frameAt {α : Type} (depthOf : α → Nat) (lines : List Nat)
    (depths : List α) (aligned : depths.length = lines.length) :
    (List.zipWith (fun line depth => frameAt table line (depthOf depth)) lines depths).map
        (·.line) =
      lines := by
  induction lines generalizing depths with
  | nil => simp
  | cons line rest induction =>
      cases depths with
      | nil => simp at aligned
      | cons depth depths =>
          have alignedRest : depths.length = rest.length := Nat.succ.inj aligned
          exact congrArg (List.cons line) (induction depths alignedRest)

/-- Frames made from lines and as many depths tell the depths. -/
theorem map_depth_zipWith_frameAt {α : Type} (depthOf : α → Nat) (lines : List Nat)
    (depths : List α) (aligned : depths.length = lines.length) :
    (List.zipWith (fun line depth => frameAt table line (depthOf depth)) lines depths).map
        (·.depth) =
      depths.map depthOf := by
  induction lines generalizing depths with
  | nil => simp [List.length_eq_zero_iff.mp aligned]
  | cons line rest induction =>
      cases depths with
      | nil => simp at aligned
      | cons depth depths =>
          have alignedRest : depths.length = rest.length := Nat.succ.inj aligned
          exact congrArg (List.cons (depthOf depth)) (induction depths alignedRest)

/-- Guessed frames tell how many calls are open at each position. -/
theorem map_depth_guessedFrames (table : ScopeTable) (lines : List Nat) :
    (guessedFrames table lines).map (·.depth) = (openCalls table lines).map List.length :=
  map_depth_zipWith_frameAt List.length _ _ (length_openCalls lines)

/-- The frames of a recording name its lines, position by position. -/
theorem map_line_frames (framed : recording.frames table = .ok frames) :
    frames.map (·.line) = recording.lines := by
  unfold Recording.frames at framed
  split at framed
  case h_1 =>
    cases framed
    exact map_line_zipWith_frameAt List.length _ _ (length_openCalls _)
  case h_2 depths _ =>
    split at framed
    case isTrue aligned =>
      cases framed
      exact map_line_zipWith_frameAt (· - depths.headD 0) _ _ aligned
    case isFalse => cases framed

theorem length_frames (framed : recording.frames table = .ok frames) :
    frames.length = recording.lines.length := by
  rw [← map_line_frames framed, List.length_map]

/-- The first frame of a recording has depth zero. -/
theorem depth_head_frames (framed : recording.frames table = .ok frames) :
    ∀ frame ∈ frames.head?, frame.depth = 0 := by
  unfold Recording.frames at framed
  split at framed
  case h_1 =>
    cases framed
    cases lines : recording.lines with
    | nil => simp [guessedFrames]
    | cons first rest => simp [guessedFrames, openCalls, frameAt]
  case h_2 depths _ =>
    split at framed
    case isTrue aligned =>
      cases framed
      cases lines : recording.lines with
      | nil => simp [recordedFrames]
      | cons first rest =>
          cases depths with
          | nil => simp [recordedFrames]
          | cons depth depths => simp [recordedFrames, frameAt]
    case isFalse => cases framed

/-- A frame made from a line and a depth tells of the line what the table tells. -/
theorem eq_frameAt_of_mem_zipWith {α : Type} (depthOf : α → Nat) (lines : List Nat)
    (depths : List α) :
    ∀ frame ∈ List.zipWith (fun line depth => frameAt table line (depthOf depth)) lines depths,
      frame = frameAt table frame.line frame.depth := by
  induction lines generalizing depths with
  | nil => simp
  | cons line rest induction =>
      cases depths with
      | nil => simp
      | cons depth depths =>
          intro frame member
          rcases List.mem_cons.mp member with rfl | later
          · rfl
          · exact induction depths frame later

/-- The frames of a recording tell of their lines what the table tells. -/
theorem eq_frameAt_of_mem_frames (framed : recording.frames table = .ok frames) :
    ∀ frame ∈ frames, frame = frameAt table frame.line frame.depth := by
  unfold Recording.frames at framed
  split at framed
  case h_1 =>
    cases framed
    exact eq_frameAt_of_mem_zipWith List.length _ _
  case h_2 depths _ =>
    split at framed
    case isTrue =>
      cases framed
      exact eq_frameAt_of_mem_zipWith (· - depths.headD 0) _ _
    case isFalse => cases framed

/-- At most one call is entered at a time. -/
theorem length_nextCalls_le (table : ScopeTable) (calls : List Call) (previous line : Nat) :
    (nextCalls table calls previous line).length ≤ calls.length + 1 := by
  have unwound : ∀ indent, (unwind indent calls).length ≤ calls.length + 1 := fun indent =>
    Nat.le_succ_of_le (List.dropWhile_sublist _).length_le
  rw [nextCalls]
  split
  · exact Nat.le_refl _
  · split
    · exact unwound _
    · split
      · exact unwound _
      · exact Nat.le_succ _

theorem length_le_of_mem_callsFrom {stack calls : List Call} {previous : Nat} {lines : List Nat}
    (member : stack ∈ callsFrom table calls previous lines) :
    stack.length ≤ calls.length + lines.length := by
  induction lines generalizing calls previous with
  | nil => cases member
  | cons line rest induction =>
      have entered := length_nextCalls_le table calls previous line
      rw [List.length_cons]
      rcases List.mem_cons.mp member with rfl | later
      · omega
      · have deeper := induction later
        omega

theorem length_le_of_mem_openCalls {calls : List Call} {lines : List Nat}
    (member : calls ∈ openCalls table lines) : calls.length ≤ lines.length := by
  cases lines with
  | nil => cases member
  | cons first rest =>
      rcases List.mem_cons.mp member with rfl | later
      · exact Nat.zero_le _
      · have deeper := length_le_of_mem_callsFrom later
        rw [List.length_nil, Nat.zero_add] at deeper
        exact Nat.le_succ_of_le deeper

/-- Guessed depths stay below the number of positions, and recorded ones below themselves. -/
theorem depth_le_of_mem_frames (framed : recording.frames table = .ok frames) {bound : Nat}
    (fitsLines : recording.lines.length ≤ bound)
    (fitsDepths : ∀ depth ∈ recording.depths.getD [], depth ≤ bound) :
    ∀ frame ∈ frames, frame.depth ≤ bound := by
  intro frame member
  have told : frame.depth ∈ frames.map (·.depth) := List.mem_map_of_mem member
  unfold Recording.frames at framed
  split at framed
  case h_1 =>
    cases framed
    rw [map_depth_guessedFrames] at told
    obtain ⟨calls, known, same⟩ := List.mem_map.mp told
    rw [← same]
    exact Nat.le_trans (length_le_of_mem_openCalls known) fitsLines
  case h_2 depths recorded =>
    rw [recorded] at fitsDepths
    split at framed
    case isTrue aligned =>
      cases framed
      rw [recordedFrames, map_depth_zipWith_frameAt (· - depths.headD 0) _ _ aligned] at told
      obtain ⟨depth, known, same⟩ := List.mem_map.mp told
      rw [← same]
      exact Nat.le_trans (Nat.sub_le _ _) (fitsDepths depth known)
    case isFalse => cases framed

/-- Only depths of another number keep a recording from having frames. -/
theorem frames_eq_error_iff {table : ScopeTable} {mismatch : DepthMismatch} :
    recording.frames table = .error mismatch ↔
      ∃ depths, recording.depths = some depths ∧ depths.length ≠ recording.lines.length ∧
        mismatch = { expected := recording.lines.length, found := depths.length } := by
  cases recorded : recording.depths with
  | none => simp [Recording.frames, recorded]
  | some depths =>
      by_cases aligned : depths.length = recording.lines.length
      · simp [Recording.frames, recorded, aligned]
      · simp [Recording.frames, recorded, aligned, eq_comm]

end Playback.Recording
