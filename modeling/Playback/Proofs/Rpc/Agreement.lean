import Playback.Conversation
import Playback.Proofs.Rpc.Method
import Playback.Proofs.Session.Lifecycle
import Playback.Proofs.Session.Refusal

/-!
# Calls and lines drive the same session

A command can be sent as a remote call or as a line of JSON.  The two are decoded along different
ways, and only the call asks whether a session was started at all.  The main statement is that
whatever commands are sent, the two ways lead to the same session, and that they answer alike.
The one exception is a call that is refused because no session was started, and there the
line does nothing either, whatever it answers: a session that was never started has no position
to move from and no line to put a breakpoint on.
-/

namespace Playback

open Json (Value)

/-- The session after commands that are sent one after the other, each in the same way. -/
def Session.afterSending {α : Type} (send : Session → Command → Turn α) (session : Session)
    (commands : List Command) : Session :=
  commands.foldl (fun session command => (send session command).session) session

/-- The turn of a command that is sent as a remote call. -/
def Rpc.callFor (session : Session) (command : Command) : Turn (Except Fault Reply) :=
  call session (methodOf command.name) (some command.toJson)

/-- The turn of a command that is sent as a line of JSON. -/
def Conversation.answerTo (session : Session) (command : Command) : Turn Answer :=
  answer session command.toJson.spelling

/-- Whether no session was started, although the command needs one. -/
def Rpc.SessionMissing (session : Session) (command : Command) : Prop :=
  session.status = .uninitialized ∧ command.name ∉ ["start", "get_state", "get_scope_info"]

/--
A call and a line, sent to the same session, that come to the same, unless the call is refused
because no session was started.
-/
structure Rpc.Agrees (session : Session) (command : Command) (called : Turn (Except Fault Reply))
    (told : Turn Conversation.Answer) : Prop where
  sameSession : called.session = told.session
  sameEvent : called.event = told.event
  missing :
    (∃ fault, called.answer = .error fault ∧ fault.code = -33004) ↔
      SessionMissing session command
  untouched : SessionMissing session command → told.session = session ∧ told.event = none
  result : ¬SessionMissing session command → ∀ value,
    (∃ reply, called.answer = .ok reply ∧ reply.toJson = value) ↔
      told.answer.toJson = .object [("ok", value)]
  error : ¬SessionMissing session command → ∀ message,
    (∃ fault, called.answer = .error fault ∧ fault.message = message) ↔
      told.answer.toJson = .object [("error", .text message)]

variable {session : Session} {command : Command}

theorem Rpc.callFor_eq (fits : command.FitsWords) :
    callFor session command =
      if session.status = .uninitialized && needsSession command then
        { answer := .error .noSession, session }
      else
        (command.run session).map fun reply => reply.mapError .refused := by
  rw [callFor, call, command_methodOf fits]

theorem Conversation.answerTo_eq (fits : command.FitsWords) :
    answerTo session command = (command.run session).map .ofReply := by
  rw [answerTo, answer, Command.read?_spelling fits]

theorem Rpc.sessionMissing_iff :
    (session.status = .uninitialized && needsSession command) = true ↔
      SessionMissing session command := by
  have named : needsSession command = true ↔
      command.name ∉ ["start", "get_state", "get_scope_info"] := by
    cases command with
    | forward action => cases action <;> simp [needsSession, Command.name, Action.name]
    | _ => simp [needsSession, Command.name]
  rw [Bool.and_eq_true, decide_eq_true_eq, named]
  rfl

theorem Rpc.SessionMissing.isStart_eq_false (missing : SessionMissing session command) :
    command.isStart = false := by
  cases command with
  | start source trace breakpoints depths => exact (missing.2 List.mem_cons_self).elim
  | _ => rfl

/-- A refusal by the session is told apart from the lack of one. -/
theorem Rpc.code_run_ne {fault : Fault}
    (answered : (command.run session).answer.mapError Fault.refused = .error fault) :
    fault.code ≠ -33004 := by
  cases answer : (command.run session).answer with
  | ok reply =>
      rw [answer] at answered
      cases answered
  | error refused =>
      have reason := (session.refusesCleanly_run command).reason answer
      rw [answer] at answered
      cases answered
      cases refused with
      | emptyTrace => simp [Fault.code, refusalCode]
      | invalidLine line sourceLines => simp [Fault.code, refusalCode]
      | indexNotFound missing => cases reason
      | inactive => cases reason
      | depthMismatch mismatch => simp [Fault.code, refusalCode]

section Answers

variable (answer : Except SessionError Reply)

theorem Rpc.result_iff (value : Value) :
    (∃ reply, answer.mapError Fault.refused = .ok reply ∧ reply.toJson = value) ↔
      (Conversation.Answer.ofReply answer).toJson = .object [("ok", value)] := by
  cases answer <;>
    simp [Except.mapError, Conversation.Answer.ofReply, Conversation.Answer.toJson]

theorem Rpc.error_iff (message : String) :
    (∃ fault, answer.mapError Fault.refused = .error fault ∧ fault.message = message) ↔
      (Conversation.Answer.ofReply answer).toJson = .object [("error", .text message)] := by
  cases answer with
  | ok reply =>
      constructor
      · rintro ⟨fault, answered, _⟩
        cases answered
      · intro same
        simp [Conversation.Answer.ofReply, Conversation.Answer.toJson] at same
  | error error =>
      have told : (Conversation.Answer.ofReply (.error error)).toJson =
          .object [("error", .text error.message)] := rfl
      rw [told]
      constructor
      · rintro ⟨fault, answered, rfl⟩
        cases answered
        rfl
      · intro same
        have worded : error.message = message := by simpa using same
        exact ⟨.refused error, rfl, worded⟩

end Answers

theorem Rpc.callFor_agrees (consistent : session.Consistent) (fits : command.FitsWords) :
    Agrees session command (callFor session command)
      (Conversation.answerTo session command) := by
  rw [Conversation.answerTo_eq fits]
  by_cases missing : SessionMissing session command
  · have refused : callFor session command = { answer := .error .noSession, session } := by
      rw [callFor_eq fits, if_pos (sessionMissing_iff.mpr missing)]
    obtain ⟨unchanged, silent⟩ :=
      consistent.run_of_uninitialized missing.1 missing.isStart_eq_false
    rw [refused]
    exact
      { sameSession := unchanged.symm
        sameEvent := silent.symm
        missing := ⟨fun _ => missing, fun _ => ⟨.noSession, rfl, rfl⟩⟩
        untouched := fun _ => ⟨unchanged, silent⟩
        result := fun begun => (begun missing).elim
        error := fun begun => (begun missing).elim }
  · have run : callFor session command =
        (command.run session).map fun reply => reply.mapError .refused := by
      rw [callFor_eq fits, if_neg (mt sessionMissing_iff.mp missing)]
    rw [run]
    exact
      { sameSession := rfl
        sameEvent := rfl
        missing :=
          ⟨fun ⟨_, answered, code⟩ => (code_run_ne answered code).elim,
            fun again => (missing again).elim⟩
        untouched := fun again => (missing again).elim
        result := fun _ => result_iff (command.run session).answer
        error := fun _ => error_iff (command.run session).answer }

/-- A way of sending that does what each command does leads where the commands lead. -/
theorem Session.afterSending_eq_after {α : Type} {send : Session → Command → Turn α}
    (sends : ∀ {session : Session} {command : Command}, session.Consistent →
      command.FitsWords → (send session command).session = (command.run session).session)
    (consistent : session.Consistent) {commands : List Command}
    (fits : ∀ command ∈ commands, command.FitsWords) :
    session.afterSending send commands = session.after commands := by
  induction commands generalizing session with
  | nil => rfl
  | cons command rest induction =>
      obtain ⟨fitsFirst, fitsRest⟩ := List.forall_mem_cons.mp fits
      rw [afterSending, List.foldl_cons, sends consistent fitsFirst]
      exact induction ((session.run_change command).consistent consistent) fitsRest

theorem Conversation.session_answerTo (fits : command.FitsWords) :
    (answerTo session command).session = (command.run session).session := by
  rw [answerTo_eq fits]
  rfl

theorem Rpc.session_callFor (consistent : session.Consistent) (fits : command.FitsWords) :
    (callFor session command).session = (command.run session).session :=
  (callFor_agrees consistent fits).sameSession.trans (Conversation.session_answerTo fits)

/--
Whatever commands were sent to two sessions with the same settings, to the one as remote calls and
to the other as lines of JSON, the two are equal, and the call and the line that come next
agree.
-/
theorem Rpc.calls_agree_with_lines (settings : EngineSettings) (commands : List Command)
    (next : Command) (fits : ∀ command ∈ next :: commands, command.FitsWords) :
    let called := (Session.new settings).afterSending callFor commands
    let told := (Session.new settings).afterSending Conversation.answerTo commands
    called = told ∧ Agrees told next (callFor called next) (Conversation.answerTo told next) := by
  intro called told
  obtain ⟨fitsNext, fitsEarlier⟩ := List.forall_mem_cons.mp fits
  have fresh := Session.consistent_new settings
  have sameCalled : called = (Session.new settings).after commands :=
    Session.afterSending_eq_after session_callFor fresh fitsEarlier
  have sameTold : told = (Session.new settings).after commands :=
    Session.afterSending_eq_after (fun _ => Conversation.session_answerTo) fresh fitsEarlier
  rw [sameCalled, sameTold]
  exact ⟨rfl, callFor_agrees (Session.consistent_after settings commands) fitsNext⟩

/-- A step before the start, which the call refuses, and a line that both refuse after it. -/
theorem Rpc.calls_agree_after_refusals :
    let commands : List Command :=
      [.forward .step, .start "a\nb" [1, 2] [2] none, .runToLine 9]
    let next : Command := .forward .continue
    let called := (Session.new {}).afterSending callFor commands
    let told := (Session.new {}).afterSending Conversation.answerTo commands
    (∀ command ∈ next :: commands, command.FitsWords) ∧
      called = told ∧
        Agrees told next (callFor called next) (Conversation.answerTo told next) := by
  intro commands next called told
  have fits : ∀ command ∈ next :: commands, command.FitsWords := by decide
  exact ⟨fits, calls_agree_with_lines {} commands next fits⟩

end Playback
