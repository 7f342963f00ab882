import Playback.Proofs.Recording.Rebasing
import Playback.Proofs.Session.Restart

/-!
# Starting on the depths that a start has led to

However the depths of a recording came about, guessed or recorded, the depths in the frames of a
started session can be handed back as recorded ones.  The start on them is the same start.  They
begin with zero, so counting from the first one leaves them alone, and the rest of a frame is
told by the source in both cases.
-/

namespace Playback.Session

variable {session : Session} {source : String} {recording : Recording} {breakpoints : List Nat}

/-- A start that is accepted leads to the frames of its recording. -/
theorem frames_run_start {reply : Reply}
    (accepted : ((startOn source recording breakpoints).run session).answer = .ok reply) :
    recording.frames (ScopeTable.ofLines session.settings.tabWidth (linesOf source)) =
      .ok ((startOn source recording breakpoints).run session).session.frames := by
  rw [Command.run] at accepted ⊢
  rcases session.restart_cases source recording breakpoints with
    ⟨refused, refuses⟩ | ⟨frames, _, _, framed, starts⟩
  · rw [refuses] at accepted
    cases accepted
  · rw [starts]
    exact framed

/-- A start on the depths of its own frames is the same start. -/
theorem run_start_of_own_depths (session : Session) (source : String) (breakpoints : List Nat)
    {frames : List Frame}
    (framed :
      recording.frames (ScopeTable.ofLines session.settings.tabWidth (linesOf source)) =
        .ok frames) :
    (startOn source { recording with depths := some (frames.map (·.depth)) } breakpoints).run
        session =
      (startOn source recording breakpoints).run session := by
  have own := Recording.frames_of_own_depths framed
  rw [Command.run, Command.run, restart, restart]
  dsimp only
  rw [own, framed]

/--
If a start is accepted, the depths of the frames that it leads to can be given along with the same
arguments.  This start is accepted with the same answer and event and leaves the same session
behind, so that whatever commands come later have the same turns.
-/
theorem start_on_own_depths (session : Session) (source : String) (recording : Recording)
    (breakpoints : List Nat) {reply : Reply}
    (accepted : ((startOn source recording breakpoints).run session).answer = .ok reply) :
    let first := (startOn source recording breakpoints).run session
    let own : Recording := { recording with depths := some (first.session.frames.map (·.depth)) }
    let second := (startOn source own breakpoints).run session
    second.answer = .ok reply ∧ second.session = first.session ∧ second.event = first.event ∧
      ∀ commands, second.session.turns commands = first.session.turns commands := by
  intro first own second
  have same : second = first :=
    session.run_start_of_own_depths source breakpoints (frames_run_start accepted)
  rw [same]
  exact ⟨accepted, rfl, rfl, fun _ => rfl⟩

/-- The guessed depths of a call, handed back. -/
theorem start_on_own_depths_of_a_call :
    let source := "def f():\n    return 1\nx = f()\nprint(x)"
    let guessed := (startOn source { lines := [3, 1, 2, 3, 4] } [4]).run (new {})
    let recorded :=
      (startOn source { lines := [3, 1, 2, 3, 4], depths := some [0, 1, 1, 0, 0] } [4]).run (new {})
    ∃ reply, guessed.answer = .ok reply ∧ recorded.answer = .ok reply ∧
      recorded.session = guessed.session := by
  intro source guessed recorded
  have own : guessed.session.frames.map (·.depth) = [0, 1, 1, 0, 0] := by decide +kernel
  have succeeds : guessed.answer.isOk = true := by decide +kernel
  cases answered : guessed.answer with
  | error refused =>
      rw [answered] at succeeds
      cases succeeds
  | ok reply =>
      obtain ⟨same, sameSession, _⟩ :=
        start_on_own_depths (new {}) source { lines := [3, 1, 2, 3, 4] } [4] answered
      dsimp only at same sameSession
      rw [own] at same sameSession
      exact ⟨reply, rfl, same, sameSession⟩

end Playback.Session
