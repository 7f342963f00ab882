import Playback.Proofs.Recording.TopLevelCalls
import Playback.Proofs.Source.Scope

/-!
# Coming to a line without code

A blank line, or one that holds a comment only, is judged to be a plain line at indent zero wherever
it stands.  That does not keep it from looking like an unindent.  Whoever comes to it from a line
further right goes left, whoever comes to it from above goes down onto a line that lies inside of no
call, and in both cases all open calls are left.  The depth of the position before is kept only if
there is nothing to leave, or if the line before is at indent zero and not above.
-/

namespace Playback.Recording

variable {table : ScopeTable} {previous line : Nat} {before after : List Call}

/-- Whether a source has a line, and nothing is left of it without its comment and its blanks. -/
def LacksCode (source : List String) : (line : Nat) → Prop
  | 0 => False
  | line + 1 => ∃ text ∈ source[line]?, Source.code text.toList = []

instance (source : List String) : (line : Nat) → Decidable (LacksCode source line)
  | 0 => inferInstanceAs (Decidable False)
  | line + 1 =>
    inferInstanceAs (Decidable (∃ text ∈ source[line]?, Source.code text.toList = []))

/-- A line without code is judged like a line that the source does not have. -/
theorem get_of_lacksCode (tabWidth : Nat) {source : List String}
    (codeless : LacksCode source line) : (ScopeTable.ofLines tabWidth source).get line = {} := by
  cases line with
  | zero => exact codeless.elim
  | succ line =>
      obtain ⟨text, held, empty⟩ := codeless
      rw [ScopeTable.get_ofLines, Option.mem_def.mp held, Option.map_some,
        Scope.ofLine_of_code_eq_nil empty, Option.getD_some]

/-- Going onto a plain line at indent zero leaves all open calls or none. -/
theorem Succeeds.eq_of_plain (succeeds : Succeeds table previous line before after)
    (plain : table.get line = {}) :
    after = if 0 < (table.get previous).indent ∨ previous < line then [] else before := by
  have stays : ¬Enters table previous line := by
    rintro ⟨_, opens, _⟩
    rw [plain] at opens
    cases opens
  have zero : (table.get line).indent = 0 := by rw [plain]
  split
  case isTrue comes => exact succeeds.eq_nil_of_returns ⟨stays, zero, comes⟩
  case isFalse remains =>
    exact succeeds.kept stays fun leaves => remains (returns_iff.mpr ⟨leaves, zero⟩).2.2

/--
Coming to a line without code from a line further right or from above, a recording is outside of all
calls.  Otherwise, from a line at indent zero that is not above, the depth stays as it was.  So
the depth is kept exactly if it was zero or if the line before is one of the latter.
-/
theorem depth_at_codeless_line (tabWidth : Nat) (source : List String) (lines : List Nat) :
    ∃ frames : List Frame,
      Recording.frames (ScopeTable.ofLines tabWidth source) { lines } = .ok frames ∧
      frames.length = lines.length ∧
      ∀ (index : Nat) (before after : Frame),
        frames[index]? = some before → frames[index + 1]? = some after →
        LacksCode source after.line →
        after.depth =
            (if 0 < before.indent ∨ before.line < after.line then 0 else before.depth) ∧
          (after.depth = before.depth ↔
            before.depth = 0 ∨ before.indent = 0 ∧ after.line ≤ before.line) := by
  have framed : Recording.frames (ScopeTable.ofLines tabWidth source) { lines } =
      .ok (guessedFrames (ScopeTable.ofLines tabWidth source) lines) := rfl
  refine ⟨_, framed, length_frames framed, fun index before after known knownNext codeless => ?_⟩
  obtain ⟨callsBefore, callsAfter, succeeds, madeBefore, madeAfter⟩ :=
    succeeds_of_guessedFrames known knownNext
  have calls := succeeds.eq_of_plain (get_of_lacksCode tabWidth codeless)
  have depth : after.depth =
      if 0 < before.indent ∨ before.line < after.line then 0 else before.depth := by
    have indent : before.indent = ((ScopeTable.ofLines tabWidth source).get before.line).indent :=
      congrArg Frame.indent madeBefore
    have depthBefore : before.depth = callsBefore.length := congrArg Frame.depth madeBefore
    have depthAfter : after.depth = callsAfter.length := congrArg Frame.depth madeAfter
    rw [depthAfter, calls, apply_ite List.length, List.length_nil, indent, depthBefore]
  refine ⟨depth, ?_⟩
  rw [depth]
  split
  case isTrue leaves =>
    constructor
    · intro same
      exact Or.inl same.symm
    · rintro (top | ⟨zero, below⟩)
      · exact top.symm
      · omega
  case isFalse keeps =>
    simp only [true_iff]
    omega

/-- The blank line after a function's body, reached from that body, ends the call. -/
theorem blank_line_leaves_call :
    let source := ["def f():", "    return 1", "", "f()"]
    LacksCode source 3 ∧
      ∃ frames before after,
        Recording.frames (ScopeTable.ofLines 4 source) { lines := [4, 1, 2, 3] } = .ok frames ∧
        frames[2]? = some before ∧ frames[3]? = some after ∧
        after.line = 3 ∧ before.depth = 1 ∧ after.depth = 0 := by
  refine ⟨by decide +kernel, _, _, _, rfl, rfl, rfl, rfl, ?_, ?_⟩
  · decide +kernel
  · decide +kernel

end Playback.Recording
