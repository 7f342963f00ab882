import Playback.Proofs.Recording.CallStack
import Playback.Proofs.Source.Scope

/-!
# Indenting a whole source

A margin of spaces and tabs in front of every line of a source moves the judgements of its lines
with code to the right, all by the same width, and the lines without code stay where they are.
Depths are guessed by comparing indents.  So if a recording never comes to a line without code, the
calls that are open at its positions are the same as before the indentation, each with its head
further right, and the depths are the same.

For lines without code this is false: they stay at indent zero and look like an unindent.  It is
also false where columns run out: of two lines that are moved, the one further right may be found at
the other end, left of the other.
-/

namespace Playback

/-- The source with a margin in front of every line. -/
def withMargin (margin : List Char) (source : List String) : List String :=
  source.map fun text => String.ofList (margin ++ text.toList)

/-- A frame of a line that stands further right. -/
def Frame.indentedBy (frame : Frame) (width : Nat) : Frame :=
  { frame with indent := frame.indent + width }

namespace Recording

/-- An open call whose head stands further right. -/
def Call.indentedBy (call : Call) (width : Nat) : Call :=
  { call with indent := call.indent + width }

/-- Whether a source has a line, and something is left of it without its comment and its blanks. -/
def HasCode (source : List String) : (line : Nat) → Prop
  | 0 => False
  | line + 1 => ∃ text ∈ source[line]?, Source.code text.toList ≠ []

instance (source : List String) : (line : Nat) → Decidable (HasCode source line)
  | 0 => inferInstanceAs (Decidable False)
  | line + 1 =>
    inferInstanceAs (Decidable (∃ text ∈ source[line]?, Source.code text.toList ≠ []))

/-- `indented` judges `line` to stand further right than `table` does, and otherwise alike. -/
def Indents (table indented : ScopeTable) (width line : Nat) : Prop :=
  indented.get line = (table.get line).indentedBy width

variable {table indented : ScopeTable} {width line previous : Nat} {lines : List Nat}
  {margin : List Char} {source : List String}

/-- A margin in front of every line indents each line with code, as far as columns reach. -/
theorem HasCode.indents {tabWidth : Nat} (hasCode : HasCode source line)
    (isMargin : Source.IsMargin margin)
    (fits : ((ScopeTable.ofLines tabWidth source).get line).indent +
      Source.marginWidth tabWidth margin ≤ Text.maxWord) :
    Indents (ScopeTable.ofLines tabWidth source)
      (ScopeTable.ofLines tabWidth (withMargin margin source))
      (Source.marginWidth tabWidth margin) line := by
  cases line with
  | zero => exact hasCode.elim
  | succ line =>
      obtain ⟨text, held, found⟩ := hasCode
      rw [ScopeTable.get_ofLines, Option.mem_def.mp held] at fits
      rw [Indents, ScopeTable.get_ofLines, ScopeTable.get_ofLines, withMargin, List.getElem?_map,
        Option.mem_def.mp held]
      simp [Scope.ofLine_margin_append_of_le isMargin found fits]

theorem entersCall_indented (here : Indents table indented width line) :
    entersCall indented previous line = entersCall table previous line := by
  rw [entersCall, here, entersCall]
  rfl

/-- Unwinding compares indents, so it does the same to calls that all stand further right. -/
theorem unwind_indented (indent width : Nat) (calls : List Call) :
    unwind (indent + width) (calls.map (·.indentedBy width)) =
      (unwind indent calls).map (·.indentedBy width) := by
  induction calls with
  | nil => rfl
  | cons call outer induction =>
      rw [List.map_cons, unwind, unwind, List.dropWhile_cons, List.dropWhile_cons]
      simp only [Call.indentedBy, Nat.add_le_add_iff_right]
      split
      · exact induction
      · rfl

/-- The calls that are open at the next line correspond if both lines stand further right. -/
theorem nextCalls_indented (there : Indents table indented width previous)
    (here : Indents table indented width line) (calls : List Call) :
    nextCalls indented (calls.map (·.indentedBy width)) previous line =
      (nextCalls table calls previous line).map (·.indentedBy width) := by
  rw [nextCalls_eq, nextCalls_eq, entersCall_indented here, here, there]
  simp only [Scope.indentedBy, Nat.add_lt_add_iff_right]
  split
  case isTrue => rfl
  case isFalse =>
    split
    case isTrue => exact unwind_indented _ width calls
    case isFalse => rfl

theorem callsFrom_indented (calls : List Call) (there : Indents table indented width previous)
    (everywhere : ∀ line ∈ lines, Indents table indented width line) :
    callsFrom indented (calls.map (·.indentedBy width)) previous lines =
      (callsFrom table calls previous lines).map (List.map (·.indentedBy width)) := by
  induction lines generalizing calls previous with
  | nil => rfl
  | cons line rest induction =>
      obtain ⟨here, later⟩ := List.forall_mem_cons.mp everywhere
      rw [callsFrom, callsFrom, nextCalls_indented there here]
      exact congrArg (List.cons _) (induction _ here later)

/-- The calls that are open at any position correspond if every line stands further right. -/
theorem openCalls_indented (everywhere : ∀ line ∈ lines, Indents table indented width line) :
    openCalls indented lines =
      (openCalls table lines).map (List.map (·.indentedBy width)) := by
  cases lines with
  | nil => rfl
  | cons first rest =>
      obtain ⟨there, later⟩ := List.forall_mem_cons.mp everywhere
      exact congrArg (List.cons []) (callsFrom_indented [] there later)

theorem frameAt_indented (here : Indents table indented width line) (depth : Nat) :
    frameAt indented line depth = (frameAt table line depth).indentedBy width := by
  rw [frameAt, here, frameAt]
  rfl

/-- If every line stands further right, so do the frames, and nothing else of them changes. -/
theorem guessedFrames_indented (everywhere : ∀ line ∈ lines, Indents table indented width line) :
    guessedFrames indented lines = (guessedFrames table lines).map (·.indentedBy width) := by
  have framed : ∀ (lines : List Nat) (calls : List (List Call)),
      (∀ line ∈ lines, Indents table indented width line) →
      List.zipWith (fun line calls => frameAt indented line calls.length) lines
          (calls.map (List.map (·.indentedBy width))) =
        (List.zipWith (fun line calls => frameAt table line calls.length) lines calls).map
          (·.indentedBy width) := by
    intro lines
    induction lines with
    | nil => intro calls _; rfl
    | cons line rest induction =>
        intro calls everywhere
        obtain ⟨here, later⟩ := List.forall_mem_cons.mp everywhere
        cases calls with
        | nil => rfl
        | cons first others =>
            simp only [List.map_cons, List.zipWith_cons_cons, List.length_map,
              frameAt_indented here, induction others later]
  rw [guessedFrames, openCalls_indented everywhere, framed lines _ everywhere, guessedFrames]

/--
A recording that keeps to lines with code has the same frames, further right, under a margin that
moves none of these lines further than columns reach.
-/
theorem frames_withMargin {tabWidth : Nat} (isMargin : Source.IsMargin margin)
    (coded : ∀ line ∈ lines, HasCode source line)
    (fits : ∀ line ∈ lines, ((ScopeTable.ofLines tabWidth source).get line).indent +
      Source.marginWidth tabWidth margin ≤ Text.maxWord) :
    ∃ frames : List Frame,
      Recording.frames (ScopeTable.ofLines tabWidth source) { lines } = .ok frames ∧
      Recording.frames (ScopeTable.ofLines tabWidth (withMargin margin source)) { lines } =
        .ok (frames.map (·.indentedBy (Source.marginWidth tabWidth margin))) := by
  have everywhere := fun line member =>
    (coded line member).indents isMargin (fits line member)
  exact ⟨_, rfl, congrArg Except.ok (guessedFrames_indented everywhere)⟩

end Recording

end Playback
