import Playback.Proofs.Prompt.Dialogue
import Playback.Proofs.Stepping.Spelling

/-!
# Actions spelled at the prompt

A text that names an action by one word has this action performed at the prompt: in large or small
letters, with a hyphen or an underscore inside, with blanks around it.  Two words with a space
between them may name an action as well, but the prompt looks at the first one only.  That is
`step`, so the prompt makes a step, also where the two words ask for stepping over or out.
-/

namespace Playback.Prompt

/--
A prompt performs an action at a line: it makes that movement and no other, reports it, and goes on
with the lines that follow.
-/
structure Performs (prompt : Prompt) (line : List Char) (action : Action) : Prop where
  exchange : prompt.execute (Request.ofLine line) =
    prompt.reportMove (prompt.session.perform action)
  session : (prompt.execute (Request.ofLine line)).prompt.session =
    (prompt.session.perform action).session
  dialogue : ∀ later,
    let exchange := prompt.reportMove (prompt.session.perform action)
    let rest := exchange.prompt.converse later
    prompt.converse (line :: later) =
      { exchanges := exchange :: rest.exchanges, quit := rest.quit }

variable {line word : List Char} {arguments : List (List Char)} {action : Action}

theorem Request.ofLine_of_words (cut : Text.words line = word :: arguments)
    (named : Action.ofText (String.ofList word) = .ok action) :
    Request.ofLine line = .move action := by
  rw [Request.ofLine, cut]
  simp only [named]

theorem performs_of_move (prompt : Prompt) (request : Request.ofLine line = .move action) :
    prompt.Performs line action := by
  constructor
  · rw [request, execute]
  · rw [request, execute]
    rfl
  · intro later
    rw [converse, request]
    rfl

/-- A line of one word that names an action asks for it. -/
theorem Request.ofLine_of_named
    (named : Action.ofText (String.ofList (Text.trim line)) = .ok action)
    (noSpace : ' ' ∉ Text.trim line) : Request.ofLine line = .move action := by
  have bare := Text.bare_trim line
  have unbroken : ∀ c ∈ Text.trim line, Text.isBlank c = false := fun c member =>
    Action.isBlank_eq_false_of_named bare named member fun same => noSpace (same ▸ member)
  have nonempty : Text.trim line ≠ [] := by
    intro empty
    rw [empty] at named
    cases named
  have cut : Text.words line = [Text.trim line] := by
    rw [← Text.words_trim, Text.words_eq_singleton nonempty unbroken]
  exact Request.ofLine_of_words cut named

/-- A line of two words that names an action asks for a step. -/
theorem Request.ofLine_of_inTwoWords (inTwoWords : action.InTwoWords (Text.trim line)) :
    Request.ofLine line = .move .step := by
  obtain ⟨first, second, cut, step⟩ := inTwoWords.exists_words
  rw [Text.words_trim] at cut
  exact Request.ofLine_of_words cut step

/--
At a line whose trimmed text names an action, a prompt in any state performs this action, unless the
text names it in two words; then the prompt performs a step.  The names in two words are those with
a space inside.
-/
theorem named_actions_performed (prompt : Prompt)
    (named : Action.ofText (String.ofList (Text.trim line)) = .ok action) :
    (¬action.InTwoWords (Text.trim line) → prompt.Performs line action) ∧
      (action.InTwoWords (Text.trim line) → prompt.Performs line .step) ∧
      (action.InTwoWords (Text.trim line) ↔ ' ' ∈ Text.trim line) := by
  have spaced : action.InTwoWords (Text.trim line) ↔ ' ' ∈ Text.trim line :=
    (Action.inTwoWords_iff (Text.bare_trim line)).trans (and_iff_right named)
  refine ⟨fun oneWord => ?_, fun inTwoWords => ?_, spaced⟩
  · exact performs_of_move prompt
      (Request.ofLine_of_named named fun space => oneWord (spaced.mpr space))
  · exact performs_of_move prompt (Request.ofLine_of_inTwoWords inTwoWords)

/-- Before a call, a hyphen in the name has the prompt step over the call. -/
theorem named_actions_performed_before_a_call :
    let session := (Session.new {}).after
      [.start "def f():\n    return 1\nx = f()\nprint(x)" [3, 1, 2, 3, 4] [] none]
    let prompt : Prompt := { session }
    let line := "\u3000Step-OVER\t".toList
    Action.ofText (String.ofList (Text.trim line)) = .ok .stepOver ∧
      prompt.Performs line .stepOver ∧
      (prompt.execute (Request.ofLine line)).prompt.session.index = 3 := by
  intro session prompt line
  have named : Action.ofText (String.ofList (Text.trim line)) = .ok .stepOver := by
    decide +kernel
  obtain ⟨performs, -, spaced⟩ := named_actions_performed prompt named
  have noSpace : ' ' ∉ Text.trim line := by decide +kernel
  exact ⟨named, performs fun inTwoWords => noSpace (spaced.mp inTwoWords), by decide +kernel⟩

/-- Before a call, a space in the name has the prompt step into the call. -/
theorem name_in_two_words_steps_into_call :
    let session := (Session.new {}).after
      [.start "def f():\n    return 1\nx = f()\nprint(x)" [3, 1, 2, 3, 4] [] none]
    let prompt : Prompt := { session }
    let line := "step over".toList
    Action.ofText (String.ofList (Text.trim line)) = .ok .stepOver ∧
      (prompt.execute (Request.ofLine line)).prompt.session.index = 1 ∧
      (session.perform .stepOver).session.index = 3 ∧
      (prompt.execute (Request.ofLine line)).prompt.session ≠
        (session.perform .stepOver).session := by
  decide +kernel

end Playback.Prompt
