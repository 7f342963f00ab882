import Playback.Proofs.Recording.Frames
import Playback.Stepping.Landing

/-!
# Counting depths from the first one

Recorded depths are counted from the first one, so it makes no difference at what depth a tracer
began to count.  A depth below the first one counts as zero.  Where there is none, counting from
the first one keeps the order of the depths, and the order is all that stepping over looks at.
Stepping out also looks for depth zero, and finds it where the recorded depth is the first one.

Depths that begin with zero are left as they are.  So the depths of frames, however these came
about, lead to the same frames again.
-/

namespace Playback

namespace Stepping

/-- A scan forward depends on which positions are accepted, and on nothing else. -/
theorem firstAfter_congr {entries entries' : List Nat} {accepts accepts' : Nat → Bool}
    (same : entries.map accepts = entries'.map accepts') (index : Nat) :
    firstAfter entries index accepts = firstAfter entries' index accepts' := by
  have scan : ∀ (entries : List Nat) (accepts : Nat → Bool) (start : Nat),
      (entries.drop start).findIdx? accepts =
        ((entries.map accepts).drop start).findIdx? id := by
    intro entries accepts start
    rw [← List.map_drop, List.findIdx?_map]
    rfl
  have sameLength : entries.length = entries'.length := by
    simpa using congrArg List.length same
  rw [firstAfter, firstAfter, scan, scan, same, next, next, sameLength]

/-- Whether depths are in the same order after a conversion as before. -/
def KeepsOrder (convert : Nat → Nat) (depths : List Nat) : Prop :=
  ∀ depth ∈ depths, ∀ other ∈ depths, convert depth ≤ convert other ↔ depth ≤ other

variable {convert : Nat → Nat} {depths : List Nat} {index depth : Nat}

/-- Stepping over compares depths, so it does the same on depths in the same order. -/
theorem stepOver_map (keeps : KeepsOrder convert depths) (index : Nat) :
    stepOver (depths.map convert) index = stepOver depths index := by
  rw [stepOver, stepOver, List.getElem?_map]
  cases here : depths[index]? with
  | none => rfl
  | some current =>
      have member : current ∈ depths := List.mem_of_getElem? here
      refine firstAfter_congr ?_ index
      rw [List.map_map]
      refine List.map_congr_left fun depth known => ?_
      exact decide_eq_decide.mpr (keeps depth known current member)

theorem stepOut_of_zero (here : depths[index]? = some 0) : stepOut depths index = .topLevel := by
  rw [stepOut, here]
  rfl

theorem stepOut_of_pos (here : depths[index]? = some depth) (deep : 0 < depth) :
    stepOut depths index = firstAfter depths index fun later => later < depth := by
  rw [stepOut, here]
  cases depth with
  | zero => exact (Nat.lt_irrefl 0 deep).elim
  | succ depth => rfl

/-- Stepping out of a call does the same on depths in the same order, if it is a call there too. -/
theorem stepOut_map (keeps : KeepsOrder convert depths) (here : depths[index]? = some depth)
    (deep : 0 < depth) (deepConverted : 0 < convert depth) :
    stepOut (depths.map convert) index = stepOut depths index := by
  have member : depth ∈ depths := List.mem_of_getElem? here
  have hereConverted : (depths.map convert)[index]? = some (convert depth) := by
    rw [List.getElem?_map, here, Option.map_some]
  rw [stepOut_of_pos hereConverted deepConverted, stepOut_of_pos here deep]
  refine firstAfter_congr ?_ index
  rw [List.map_map]
  refine List.map_congr_left fun later known => decide_eq_decide.mpr ?_
  rw [← Nat.not_le, ← Nat.not_le]
  exact not_congr (keeps depth member later known)

end Stepping

namespace Recording

variable {table : ScopeTable} {lines depths : List Nat}

/-- Depths counted from another depth on are counted from the first one all the same. -/
theorem recordedFrames_map_add (table : ScopeTable) (lines depths : List Nat) (shift : Nat) :
    recordedFrames table lines (depths.map (· + shift)) =
      recordedFrames table lines depths := by
  cases depths with
  | nil => rfl
  | cons first rest =>
      rw [recordedFrames, recordedFrames, List.zipWith_map_right]
      simp only [List.map_cons, List.headD_cons, Nat.add_sub_add_right]

theorem frames_map_add (table : ScopeTable) (lines depths : List Nat) (shift : Nat) :
    frames table { lines, depths := some (depths.map (· + shift)) } =
      frames table { lines, depths := some depths } := by
  simp only [frames, List.length_map, recordedFrames_map_add]

theorem frames_of_aligned (aligned : depths.length = lines.length) :
    frames table { lines, depths := some depths } = .ok (recordedFrames table lines depths) :=
  if_pos aligned

/-- The depths of frames lead to these frames again. -/
theorem frames_of_own_depths {recording : Recording} {frames : List Frame}
    (framed : recording.frames table = .ok frames) :
    Recording.frames table
        { lines := recording.lines, depths := some (frames.map (·.depth)) } =
      .ok frames := by
  have base : (frames.map (·.depth)).headD 0 = 0 := by
    cases frames with
    | nil => rfl
    | cons first rest => exact depth_head_frames framed first rfl
  rw [frames_of_aligned (by rw [List.length_map, length_frames framed]), recordedFrames, base,
    ← map_line_frames framed, List.zipWith_map, List.zipWith_self]
  refine congrArg Except.ok ?_
  calc
    frames.map (fun frame => frameAt table frame.line (frame.depth - 0)) = frames.map id :=
      List.map_congr_left fun frame known => (eq_frameAt_of_mem_frames framed frame known).symm
    _ = frames := List.map_id frames

/-- Counting from the first depth keeps the order of the depths exactly if none lies below it. -/
theorem keepsOrder_sub_headD_iff :
    Stepping.KeepsOrder (· - depths.headD 0) depths ↔
      ∀ depth ∈ depths, depths.headD 0 ≤ depth := by
  constructor
  · intro keeps depth known
    cases depths with
    | nil => cases known
    | cons first rest =>
        refine (keeps first List.mem_cons_self depth known).mp ?_
        calc
          first - first = 0 := Nat.sub_self first
          _ ≤ depth - first := Nat.zero_le _
  · intro above depth _ other known
    exact Nat.sub_le_sub_iff_right (above other known)

/--
Recorded depths that are all deeper by the same number give the same frames.  There is one frame
for each line, the first one has depth zero, and each depth is counted from the first one, those
below it as zero.  If none lies below it, stepping over does the same as on the recorded depths, and
so does stepping out, but that it is at the top where the recorded depth is the first one.  Depths
for more or fewer positions than there are have no frames.
-/
theorem recorded_depths_rebased (table : ScopeTable) (lines depths : List Nat) :
    let recording : Recording := { lines, depths := some depths }
    (∀ shift, frames table { lines, depths := some (depths.map (· + shift)) } =
      recording.frames table) ∧
    (depths.length ≠ lines.length →
      recording.frames table = .error { expected := lines.length, found := depths.length }) ∧
    (depths.length = lines.length → ∃ frames, recording.frames table = .ok frames ∧
      frames.map (·.line) = lines ∧
      (∀ frame ∈ frames, frame = frameAt table frame.line frame.depth) ∧
      (∀ first ∈ frames.head?, first.depth = 0) ∧
      frames.map (·.depth) = depths.map (· - depths.headD 0) ∧
      ((∀ depth ∈ depths, depths.headD 0 ≤ depth) → ∀ index,
        Stepping.stepOver (frames.map (·.depth)) index = Stepping.stepOver depths index ∧
        ∀ depth, depths[index]? = some depth →
          (depths.headD 0 < depth →
            Stepping.stepOut (frames.map (·.depth)) index = Stepping.stepOut depths index) ∧
          (depth = depths.headD 0 →
            Stepping.stepOut (frames.map (·.depth)) index = .topLevel))) := by
  intro recording
  refine ⟨fun shift => ?_, fun uneven => if_neg uneven, fun aligned => ?_⟩
  · rw [frames_map_add]
  · have framed : recording.frames table = .ok (recordedFrames table lines depths) :=
      frames_of_aligned aligned
    have rebased : (recordedFrames table lines depths).map (·.depth) =
        depths.map (· - depths.headD 0) :=
      map_depth_zipWith_frameAt (· - depths.headD 0) lines depths aligned
    refine ⟨_, framed, map_line_frames framed, eq_frameAt_of_mem_frames framed,
      depth_head_frames framed, rebased, fun above index => ?_⟩
    have keeps := keepsOrder_sub_headD_iff.mpr above
    rw [rebased]
    refine ⟨Stepping.stepOver_map keeps index, fun depth here => ⟨fun deeper => ?_, ?_⟩⟩
    · exact Stepping.stepOut_map keeps here (Nat.zero_lt_of_lt deeper) (Nat.sub_pos_of_lt deeper)
    · rintro rfl
      apply Stepping.stepOut_of_zero
      rw [List.getElem?_map, here, Option.map_some, Nat.sub_self]

/-- Where a depth lies below the first one, cutting it off can stop a movement that went on. -/
example :
    Stepping.stepOver [1, 0, 1] 1 = .pastEnd ∧
      Stepping.stepOver ([1, 0, 1].map (· - 1)) 1 = .moved 2 := by
  decide

end Recording

end Playback
