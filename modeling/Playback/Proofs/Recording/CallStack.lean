import Playback.Proofs.Recording.Frames

/-!
# What becomes of the open calls

The calls open at a position follow from those open at the position before and from the two lines.
The line enters a call, or it leaves the innermost calls that it does not lie inside of, or it does
neither.  The main statement says this of every position of a guessed recording, and that the
depth of a position is the number of calls open there.

There is one way of leaving calls, although going down the source looks at the innermost call
first.  That look makes no difference: it only spares an unwinding that would leave nothing.  Heads
of open calls need not be indented one more than the other, so what is left is a run of innermost
calls and not all those at or right of the line.
-/

namespace Playback.Recording

/-- The calls that remain without the longest run of innermost ones at or right of an indent. -/
structure Unwound (indent : Nat) (before after : List Call) : Prop where
  run : ∃ left, before = left ++ after ∧ ∀ call ∈ left, indent ≤ call.indent
  remaining : ∀ innermost ∈ after.head?, innermost.indent < indent

variable {indent : Nat} {calls before after : List Call}

theorem unwound_unwind (indent : Nat) (calls : List Call) :
    Unwound indent calls (unwind indent calls) := by
  induction calls with
  | nil => exact ⟨⟨[], rfl, by simp⟩, by simp [unwind]⟩
  | cons innermost outer induction =>
      obtain ⟨⟨left, same, right⟩, remaining⟩ := induction
      rw [unwind, List.dropWhile_cons]
      split
      case isTrue further =>
        refine ⟨⟨innermost :: left, congrArg (List.cons innermost) same, ?_⟩, remaining⟩
        exact List.forall_mem_cons.mpr ⟨of_decide_eq_true further, right⟩
      case isFalse inside =>
        refine ⟨⟨[], rfl, by simp⟩, ?_⟩
        rintro _ ⟨⟩
        simpa using inside

/-- Calls whose innermost one lies strictly left of an indent are not unwound. -/
theorem unwind_eq_self (inside : ∀ innermost ∈ calls.head?, innermost.indent < indent) :
    unwind indent calls = calls := by
  cases calls with
  | nil => rfl
  | cons innermost outer =>
      have left : innermost.indent < indent := inside innermost rfl
      rw [unwind, List.dropWhile_cons, if_neg (by simpa using left)]

/-- Nothing lies left of indent zero. -/
theorem Unwound.eq_nil (unwound : Unwound 0 before after) : after = [] := by
  cases after with
  | nil => rfl
  | cons innermost outer => exact (Nat.not_lt_zero _ (unwound.remaining innermost rfl)).elim

/-- Going from line `previous` to `line` goes back up onto the head of a function. -/
def Enters (table : ScopeTable) (previous line : Nat) : Prop :=
  line < previous ∧ (table.get line).opensBlock = true ∧ (table.get line).kind = .function

/-- Going from line `previous` to `line` goes left or down without entering a call. -/
def Leaves (table : ScopeTable) (previous line : Nat) : Prop :=
  ¬Enters table previous line ∧
    ((table.get line).indent < (table.get previous).indent ∨ previous < line)

/-- What becomes of the calls that were open at line `previous` when the next line is `line`. -/
structure Succeeds (table : ScopeTable) (previous line : Nat) (before after : List Call) :
    Prop where
  entered : Enters table previous line →
    after = { line, indent := (table.get line).indent } :: before
  left : Leaves table previous line → Unwound (table.get line).indent before after
  kept : ¬Enters table previous line → ¬Leaves table previous line → after = before

variable {table : ScopeTable} {lines : List Nat} {previous line index : Nat}

theorem entersCall_iff : entersCall table previous line = true ↔ Enters table previous line := by
  simp [entersCall, Enters, Scope.opensFunction]

theorem succeeds_of_enters (enters : Enters table previous line)
    (same : after = { line, indent := (table.get line).indent } :: before) :
    Succeeds table previous line before after :=
  ⟨fun _ => same, fun leaves => (leaves.1 enters).elim, fun stays => (stays enters).elim⟩

theorem succeeds_of_leaves (leaves : Leaves table previous line)
    (unwound : Unwound (table.get line).indent before after) :
    Succeeds table previous line before after :=
  ⟨fun enters => (leaves.1 enters).elim, fun _ => unwound, fun _ keeps => (keeps leaves).elim⟩

/-- The look at the innermost call makes no difference: without it nothing would be left either. -/
theorem nextCalls_eq (table : ScopeTable) (calls : List Call) (previous line : Nat) :
    nextCalls table calls previous line =
      if entersCall table previous line then
        { line, indent := (table.get line).indent } :: calls
      else if (table.get line).indent < (table.get previous).indent ∨ previous < line then
        unwind (table.get line).indent calls
      else
        calls := by
  rw [nextCalls]
  split
  case isTrue => rfl
  case isFalse =>
    by_cases further : (table.get line).indent < (table.get previous).indent
    · rw [if_pos further, if_pos (Or.inl further)]
    · rw [if_neg further]
      by_cases down : previous < line
      · rw [if_pos (Or.inr down)]
        split
        case isTrue => rfl
        case isFalse inside =>
          rw [unwind_eq_self fun innermost first => ?_]
          rw [Option.mem_def] at first
          simpa [down, first] using inside
      · rw [if_neg (by simp [down]), if_neg (by simp [further, down])]

theorem succeeds_nextCalls (table : ScopeTable) (calls : List Call) (previous line : Nat) :
    Succeeds table previous line calls (nextCalls table calls previous line) := by
  rw [nextCalls_eq]
  split
  case isTrue enters => exact succeeds_of_enters (entersCall_iff.mp enters) rfl
  case isFalse stays =>
    rw [entersCall_iff] at stays
    split
    case isTrue moves => exact succeeds_of_leaves ⟨stays, moves⟩ (unwound_unwind _ calls)
    case isFalse remains =>
      exact ⟨fun enters => (stays enters).elim, fun leaves => (remains leaves.2).elim,
        fun _ _ => rfl⟩

/-! ## A whole recording -/

/-- The calls open at a position are made of those before it and of the two lines. -/
theorem getElem?_callsFrom {calls : List Call} {first : Nat}
    (held : (first :: lines)[index]? = some previous) (next : lines[index]? = some line)
    (opened : (calls :: callsFrom table calls first lines)[index]? = some before) :
    (callsFrom table calls first lines)[index]? = some (nextCalls table before previous line) := by
  induction lines generalizing calls first index with
  | nil => cases next
  | cons second rest induction =>
      cases index with
      | zero =>
          cases held
          cases next
          cases opened
          rfl
      | succ index =>
          rw [callsFrom]
          exact induction held next opened

theorem getElem?_openCalls_succ (held : lines[index]? = some previous)
    (next : lines[index + 1]? = some line)
    (opened : (openCalls table lines)[index]? = some before) :
    (openCalls table lines)[index + 1]? = some (nextCalls table before previous line) := by
  cases lines with
  | nil => cases held
  | cons first rest => exact getElem?_callsFrom held next opened

/-- A guessed frame is made from the line and the open calls of its position. -/
theorem getElem?_guessedFrames_eq_some_iff {frame : Frame} :
    (guessedFrames table lines)[index]? = some frame ↔
      ∃ line calls, lines[index]? = some line ∧ (openCalls table lines)[index]? = some calls ∧
        frameAt table line calls.length = frame := by
  rw [guessedFrames, List.getElem?_zipWith_eq_some]

/-- A guessed frame tells how many calls are open at its position. -/
theorem getElem?_guessedFrames (held : lines[index]? = some line)
    (opened : (openCalls table lines)[index]? = some calls) :
    (guessedFrames table lines)[index]? = some (frameAt table line calls.length) :=
  getElem?_guessedFrames_eq_some_iff.mpr ⟨line, calls, held, opened, rfl⟩

/-- From one guessed frame to the next, the open calls change as the two lines tell. -/
theorem succeeds_of_guessedFrames {frame next : Frame}
    (known : (guessedFrames table lines)[index]? = some frame)
    (knownNext : (guessedFrames table lines)[index + 1]? = some next) :
    ∃ before after, Succeeds table frame.line next.line before after ∧
      frame = frameAt table frame.line before.length ∧
      next = frameAt table next.line after.length := by
  obtain ⟨previous, calls, held, opened, rfl⟩ := getElem?_guessedFrames_eq_some_iff.mp known
  obtain ⟨line, callsNext, heldNext, openedNext, rfl⟩ :=
    getElem?_guessedFrames_eq_some_iff.mp knownNext
  obtain rfl := Option.some.inj
    ((getElem?_openCalls_succ held heldNext opened).symm.trans openedNext)
  exact ⟨calls, _, succeeds_nextCalls table calls previous line, rfl, rfl⟩

theorem get_of_unknown (unknown : line = 0 ∨ table.size < line) : table.get line = {} := by
  cases line with
  | zero => rfl
  | succ line =>
      have outside : table.scopes.length ≤ line :=
        Nat.le_of_lt_succ (unknown.resolve_left (Nat.succ_ne_zero line))
      rw [ScopeTable.get, ScopeTable.get?, List.getElem?_eq_none outside, Option.getD_none]

end Playback.Recording
