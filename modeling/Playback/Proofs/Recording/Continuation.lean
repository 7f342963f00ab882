import Mathlib.Data.List.Infix
import Playback.Proofs.Recording.Frames
import Playback.Proofs.Recording.Occurrence

/-!
# Recordings that go on

A recording that was cut off shows the beginning of what the whole one shows.  Frames are made from
the past alone: the calls open at a position depend on the positions up to it, and recorded depths
are counted from the first one.  Likewise a rank counts earlier positions only, and so
looking a visit up finds the same position in both.
-/

namespace Playback.Recording

/-- A recording that begins with another one, with depths for all its positions or for none. -/
inductive Continues : (longer shorter : Recording) → Prop
  | guessed (lines more : List Nat) :
      Continues { lines := lines ++ more } { lines }
  | recorded {lines more depths moreDepths : List Nat}
      (aligned : depths.length = lines.length) (alignedMore : moreDepths.length = more.length) :
      Continues
        { lines := lines ++ more, depths := some (depths ++ moreDepths) }
        { lines, depths := some depths }

variable {longer shorter : Recording} {table : ScopeTable} {lines : List Nat}

theorem Continues.lines_eq (continues : longer.Continues shorter) :
    ∃ more, longer.lines = shorter.lines ++ more := by
  cases continues with
  | guessed lines more => exact ⟨more, rfl⟩
  | @recorded lines more depths moreDepths _ _ => exact ⟨more, rfl⟩

theorem Continues.lines_ne_nil (continues : longer.Continues shorter)
    (nonempty : shorter.lines ≠ []) : longer.lines ≠ [] := by
  obtain ⟨more, same⟩ := continues.lines_eq
  rw [same]
  exact List.append_ne_nil_of_left_ne_nil nonempty more

theorem Continues.headD_lines (continues : longer.Continues shorter)
    (nonempty : shorter.lines ≠ []) : longer.lines.headD 0 = shorter.lines.headD 0 := by
  obtain ⟨more, same⟩ := continues.lines_eq
  rw [same]
  cases positions : shorter.lines with
  | nil => exact (nonempty positions).elim
  | cons first rest => rfl

/-- The calls open at the positions of a list do not depend on the positions after it. -/
theorem callsFrom_append (calls : List Call) (previous : Nat) (lines more : List Nat) :
    ∃ later, callsFrom table calls previous (lines ++ more) =
      callsFrom table calls previous lines ++ later := by
  induction lines generalizing calls previous with
  | nil => exact ⟨_, rfl⟩
  | cons line rest induction =>
      obtain ⟨later, same⟩ := induction (nextCalls table calls previous line) line
      exact ⟨later, congrArg (List.cons _) same⟩

theorem openCalls_append (nonempty : lines ≠ []) (more : List Nat) :
    ∃ later, openCalls table (lines ++ more) = openCalls table lines ++ later := by
  cases lines with
  | nil => exact (nonempty rfl).elim
  | cons first rest =>
      obtain ⟨later, same⟩ := callsFrom_append [] first rest more
      exact ⟨later, congrArg (List.cons []) same⟩

/-- Guessed frames do not depend on the positions after theirs. -/
theorem guessedFrames_append (table : ScopeTable) (nonempty : lines ≠ []) (more : List Nat) :
    ∃ later, guessedFrames table (lines ++ more) = guessedFrames table lines ++ later := by
  obtain ⟨later, same⟩ := openCalls_append nonempty more
  rw [guessedFrames, same, List.zipWith_append (length_openCalls lines).symm]
  exact ⟨_, rfl⟩

/-- Recorded depths go on being counted from the first one. -/
theorem recordedFrames_append (table : ScopeTable) {depths : List Nat} (nonempty : lines ≠ [])
    (aligned : depths.length = lines.length) (more moreDepths : List Nat) :
    ∃ later, recordedFrames table (lines ++ more) (depths ++ moreDepths) =
      recordedFrames table lines depths ++ later := by
  have base : (depths ++ moreDepths).headD 0 = depths.headD 0 := by
    cases depths with
    | nil => exact (nonempty (List.length_eq_zero_iff.mp aligned.symm)).elim
    | cons first rest => rfl
  rw [recordedFrames, base, List.zipWith_append aligned.symm]
  exact ⟨_, rfl⟩

/-- The frames of a recording are the first frames of every recording that continues it. -/
theorem Continues.frames (continues : longer.Continues shorter) (nonempty : shorter.lines ≠ [])
    (table : ScopeTable) :
    ∃ frames later, shorter.frames table = .ok frames ∧
      longer.frames table = .ok (frames ++ later) := by
  cases continues with
  | guessed lines more =>
      obtain ⟨later, same⟩ := guessedFrames_append table nonempty more
      exact ⟨_, later, rfl, congrArg Except.ok same⟩
  | @recorded lines more depths moreDepths aligned alignedMore =>
      have aligned' : (depths ++ moreDepths).length = (lines ++ more).length := by
        rw [List.length_append, List.length_append, aligned, alignedMore]
      obtain ⟨later, same⟩ :=
        recordedFrames_append table nonempty aligned more moreDepths
      exact ⟨_, later, if_pos aligned, (if_pos aligned').trans (congrArg Except.ok same)⟩

/-- The rank of a position counts earlier positions only. -/
theorem rankAt_append {line index : Nat} (inside : index ≤ lines.length) (more : List Nat) :
    rankAt (lines ++ more) line index = rankAt lines line index := by
  rw [rankAt, rankAt, List.take_append_of_le_length inside]

/-- A visit that is found is found at the same position where the recording goes on. -/
theorem nth_append {line rank index : Nat} (found : nth lines line rank = .ok index)
    (more : List Nat) : nth (lines ++ more) line rank = .ok index := by
  obtain ⟨held, ranked⟩ := nth_eq_ok_iff_rankAt.mp found
  have inside : index < lines.length := (List.getElem?_eq_some_iff.mp held).1
  refine nth_eq_ok_iff_rankAt.mpr ⟨?_, ?_⟩
  · rw [List.getElem?_append_left inside, held]
  · rw [rankAt_append (Nat.le_of_lt inside), ranked]

end Playback.Recording
