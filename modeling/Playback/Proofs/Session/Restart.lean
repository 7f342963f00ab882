import Playback.Proofs.Session.Foresight
import Playback.Proofs.Session.Refusal
import Playback.Proofs.Session.Watched

/-!
# A start forgets everything but the observers

Whatever a session went through, a start on it is like a start on a new session with the same
settings: both are refused for the same reason, or both give the same answer and leave equal
sessions behind, which no commands can tell apart afterwards.  Only the observers stay.  A refused
start has not even begun to forget.

What a start is refused for is told by its arguments alone, and told here without the start.
-/

namespace Playback

namespace Session

/--
The reason for which a start has to be refused: a recording without positions, or else the first
breakpoint outside the source, or else depths that do not match the lines.
-/
inductive Unfit (source : String) (recording : Recording) (breakpoints : List Nat) :
    SessionError → Prop
  | emptyTrace (empty : recording.lines = []) : Unfit source recording breakpoints .emptyTrace
  | invalidLine {before later : List Nat} {line : Nat} (positions : recording.lines ≠ [])
      (listed : breakpoints = before ++ line :: later)
      (inside : ∀ earlier ∈ before, 1 ≤ earlier ∧ earlier ≤ (linesOf source).length)
      (outside : ¬(1 ≤ line ∧ line ≤ (linesOf source).length)) :
      Unfit source recording breakpoints (.invalidLine line (linesOf source).length)
  | depthMismatch {depths : List Nat} (positions : recording.lines ≠ [])
      (inside : ∀ line ∈ breakpoints, 1 ≤ line ∧ line ≤ (linesOf source).length)
      (recorded : recording.depths = some depths)
      (uneven : depths.length ≠ recording.lines.length) :
      Unfit source recording breakpoints
        (.depthMismatch { expected := recording.lines.length, found := depths.length })

/-- The command to start on a recording. -/
abbrev startOn (source : String) (recording : Recording) (breakpoints : List Nat) : Command :=
  .start source recording.lines breakpoints recording.depths

variable {source : String} {recording : Recording} {breakpoints : List Nat}
  {refused : SessionError}

theorem run_start_of_empty (session : Session) (empty : recording.lines = []) :
    (startOn source recording breakpoints).run session = session.refuse .emptyTrace := by
  rw [Command.run, empty]
  rfl

/-- A start on a recording with too many or too few depths is refused for it at the end. -/
theorem run_start_of_mismatch (session : Session) {mismatch : DepthMismatch}
    (nonempty : recording.lines ≠ [])
    (valid : firstMissing? (linesOf source).length breakpoints = none)
    (uneven :
      recording.frames (ScopeTable.ofLines session.settings.tabWidth (linesOf source)) =
        .error mismatch) :
    (startOn source recording breakpoints).run session =
      session.refuse (.depthMismatch mismatch) := by
  rw [Command.run]
  unfold restart
  split
  case h_1 empty => exact (nonempty empty).elim
  case h_2 =>
    dsimp only
    rw [valid]
    dsimp only
    rw [uneven]
    rfl

/-- Every session refuses a start that has to be refused, and for that reason. -/
theorem Unfit.run_start (unfit : Unfit source recording breakpoints refused)
    (session : Session) :
    (startOn source recording breakpoints).run session = session.refuse refused := by
  cases unfit with
  | emptyTrace empty => exact session.run_start_of_empty empty
  | invalidLine positions listed inside outside =>
      exact session.run_start_eq_refuse positions
        (firstMissing?_eq_some_iff.mpr ⟨outside, _, _, listed, inside⟩)
  | depthMismatch positions inside recorded uneven =>
      exact session.run_start_of_mismatch positions (firstMissing?_eq_none_iff.mpr inside)
        (Recording.frames_eq_error_iff.mpr ⟨_, recorded, uneven, rfl⟩)

/-- Every session accepts a start that does not have to be refused. -/
theorem unfit_or_accepts (session : Session) (source : String) (recording : Recording)
    (breakpoints : List Nat) :
    (∃ refused, Unfit source recording breakpoints refused) ∨
      ∃ reply, ((startOn source recording breakpoints).run session).answer = .ok reply := by
  by_cases positions : recording.lines = []
  · exact Or.inl ⟨_, .emptyTrace positions⟩
  cases missing : firstMissing? (linesOf source).length breakpoints with
  | some line =>
      obtain ⟨outside, before, later, listed, inside⟩ := firstMissing?_eq_some_iff.mp missing
      exact Or.inl ⟨_, .invalidLine positions listed inside outside⟩
  | none =>
      cases framed :
        recording.frames (ScopeTable.ofLines session.settings.tabWidth (linesOf source)) with
      | error mismatch =>
          obtain ⟨depths, recorded, uneven, rfl⟩ := Recording.frames_eq_error_iff.mp framed
          exact Or.inl
            ⟨_, .depthMismatch positions (firstMissing?_eq_none_iff.mp missing) recorded uneven⟩
      | ok frames =>
          have started := session.run_start_eq_started positions missing framed
          exact Or.inr ⟨_, congrArg Turn.answer started⟩

/-- The reason for which a start is refused. -/
theorem answer_start_eq_error_iff (session : Session) :
    ((startOn source recording breakpoints).run session).answer = .error refused ↔
      Unfit source recording breakpoints refused := by
  constructor
  · intro answered
    rcases session.unfit_or_accepts source recording breakpoints with
      ⟨other, unfit⟩ | ⟨reply, accepted⟩
    · rw [unfit.run_start] at answered
      cases answered
      exact unfit
    · rw [accepted] at answered
      cases answered
  · intro unfit
    rw [unfit.run_start]
    rfl

end Session

namespace WatchedSession

variable {watched : WatchedSession}

/-- A command keeps the observers, each under its number and in their order. -/
theorem numbers_apply_command (command : Command) :
    (watched.apply (.command command)).observers.numbers = watched.observers.numbers := by
  rw [observers_apply_command]
  cases (command.run watched.session).event with
  | none => rfl
  | some event => exact Observers.numbers_notify event

/-- A command that is refused leaves the session and its observers as they were. -/
theorem apply_command_of_refused {command : Command} {refused : SessionError}
    (answered : (command.run watched.session).answer = .error refused) :
    watched.apply (.command command) = watched ∧ watched.callsOf (.command command) = [] := by
  rw [apply, callsOf, (watched.session.refusesCleanly_run command).same answered]
  exact ⟨rfl, rfl⟩

/--
Take a session under given settings, whatever commands it was given while observers came and went,
and start it on a recording.  The answer is the one of a new session with these settings.  If the
start is accepted, the event and all of the session are the same too, the observers are the earlier
ones, and whatever comes later has the same turns on both.  If the start is refused, nothing of the
session and its observers is changed and nobody is called.  The start is refused for a recording
without positions, or else for the first breakpoint outside the source, or else for the number of
depths, and for nothing else.
-/
theorem restart_forgets (settings : EngineSettings) (acts : List Operation) (source : String)
    (recording : Recording) (breakpoints : List Nat) :
    let fresh : WatchedSession := { session := Session.new settings }
    let watched := fresh.after acts
    let start := Session.startOn source recording breakpoints
    let turn := start.run watched.session
    let first := start.run fresh.session
    let restarted := watched.apply (.command start)
    let started := fresh.apply (.command start)
    turn.answer = first.answer ∧
    (∀ reply, turn.answer = .ok reply →
      turn.event = first.event ∧
        restarted.session = started.session ∧
        restarted.observers.numbers = watched.observers.numbers ∧
        ∀ later other : List Operation, commands later = commands other →
          restarted.turns later = started.turns other) ∧
    (∀ refused, turn.answer = .error refused →
      turn.event = none ∧ restarted = watched ∧ watched.callsOf (.command start) = []) ∧
    ∀ refused, turn.answer = .error refused ↔
      Session.Unfit source recording breakpoints refused := by
  intro fresh watched start turn first restarted started
  have alike : fresh.session.settings = watched.session.settings := by
    rw [session_after]
    exact (Session.settings_after _ _).symm
  have clean : ∀ refused, turn.answer = .error refused →
      turn.event = none ∧ restarted = watched ∧ watched.callsOf (.command start) = [] :=
    fun refused answered =>
      ⟨congrArg Turn.event ((watched.session.refusesCleanly_run start).same answered),
        apply_command_of_refused answered⟩
  have reason : ∀ refused, turn.answer = .error refused ↔
      Session.Unfit source recording breakpoints refused :=
    fun _ => watched.session.answer_start_eq_error_iff
  rcases Session.run_start_of_settings alike (show start.isStart = true from rfl) with
    ⟨refused, firstRefused, turnRefused⟩ | same
  · have answered : turn.answer = .error refused := congrArg Turn.answer turnRefused
    have same : turn.answer = first.answer :=
      answered.trans (congrArg Turn.answer firstRefused).symm
    refine ⟨same, fun reply accepted => ?_, clean, reason⟩
    rw [answered] at accepted
    cases accepted
  · have sessions : restarted.session = started.session := by
      rw [session_apply_command, session_apply_command]
      exact congrArg Turn.session same
    refine ⟨congrArg Turn.answer same, fun _ _ => ?_, clean, reason⟩
    refine ⟨congrArg Turn.event same, sessions, numbers_apply_command start, ?_⟩
    intro later other together
    rw [turns_eq, turns_eq, sessions, together]

end WatchedSession

end Playback
