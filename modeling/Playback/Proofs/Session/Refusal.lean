import Playback.Proofs.Session.Change

/-!
# Refused commands and queries leave no trace

A command that is refused comes to nothing but its refusal: the session afterwards is the one
before, whole, and nothing is announced.  A start is the demanding case, because it looks at the
lines, the breakpoints and the depths one after the other and may be refused at each.  The
two queries are never refused and change nothing either.

The errors that stay inside a session are no reason for which a command is refused.
-/

namespace Playback

/-- Whether a request can be refused with an error, which then does not stay inside the session. -/
def SessionError.isReason : SessionError → Bool
  | .emptyTrace | .invalidLine .. | .depthMismatch _ => true
  | .indexNotFound _ | .inactive => false

/-- A command that only shows something. -/
def Command.isQuery : Command → Bool
  | .getState | .getScopeInfo _ => true
  | _ => false

namespace Session

/-- A turn on a session that, if it is a refusal, is nothing else, and has a reason. -/
structure RefusesCleanly {α : Type} (session : Session) (turn : Turn (Except SessionError α)) :
    Prop where
  same {refused : SessionError} (answered : turn.answer = .error refused) :
    turn = session.refuse refused
  reason {refused : SessionError} (answered : turn.answer = .error refused) :
    refused.isReason = true

variable {session : Session} {α β : Type} {turn : Turn (Except SessionError α)}

theorem refusesCleanly_of_ok {answer : α} (accepted : turn.answer = .ok answer) :
    session.RefusesCleanly turn where
  same answered := by cases accepted.symm.trans answered
  reason answered := by cases accepted.symm.trans answered

theorem refusesCleanly_refuse {refused : SessionError} (reason : refused.isReason = true) :
    session.RefusesCleanly (session.refuse refused : Turn (Except SessionError α)) where
  same answered := by
    cases answered
    rfl
  reason answered := by
    cases answered
    exact reason

/-- Putting an accepted answer differently does not touch a refusal. -/
theorem RefusesCleanly.map (clean : session.RefusesCleanly turn) (f : α → β) :
    session.RefusesCleanly (turn.map (Except.map f)) := by
  cases answer : turn.answer with
  | error refused =>
      rw [clean.same answer]
      exact refusesCleanly_refuse (clean.reason answer)
  | ok value =>
      have accepted : (turn.map (Except.map f)).answer = .ok (f value) := by
        rw [Turn.map, answer]
        rfl
      exact refusesCleanly_of_ok accepted

theorem refusesCleanly_restart (session : Session) (source : String) (recording : Recording)
    (breakpoints : List Nat) :
    session.RefusesCleanly (session.restart source recording breakpoints) := by
  rw [restart]
  split
  · exact refusesCleanly_refuse rfl
  · dsimp only
    split
    · exact refusesCleanly_refuse rfl
    · split
      · exact refusesCleanly_refuse rfl
      · exact refusesCleanly_of_ok rfl

theorem refusesCleanly_addBreakpoint (session : Session) (line : Nat) :
    session.RefusesCleanly (session.addBreakpoint line) := by
  rw [addBreakpoint]
  split
  · exact refusesCleanly_of_ok rfl
  · exact refusesCleanly_refuse rfl

theorem refusesCleanly_removeBreakpoint (session : Session) (line : Nat) :
    session.RefusesCleanly (session.removeBreakpoint line) := by
  rw [removeBreakpoint]
  split
  · exact refusesCleanly_of_ok rfl
  · exact refusesCleanly_refuse rfl

theorem refusesCleanly_toggleBreakpoint (session : Session) (line : Nat) :
    session.RefusesCleanly (session.toggleBreakpoint line) := by
  by_cases inSource : session.hasLine line = true
  · rw [toggleBreakpoint_eq inSource]
    exact refusesCleanly_of_ok rfl
  · rw [toggleBreakpoint, removeBreakpoint, if_neg inSource]
    exact refusesCleanly_refuse rfl

theorem refusesCleanly_runToLine (session : Session) (target : Nat) :
    session.RefusesCleanly (session.runToLine target) := by
  rw [runToLine]
  split
  · split
    · exact refusesCleanly_of_ok rfl
    · exact refusesCleanly_refuse rfl
  · exact refusesCleanly_of_ok rfl

theorem RefusesCleanly.breakpointTurn {turn : Turn (Except SessionError Bool)}
    (clean : session.RefusesCleanly turn) (reply : Bool → List Nat → Reply) :
    session.RefusesCleanly (Playback.breakpointTurn reply turn) :=
  clean.map fun flag => reply flag turn.session.breakpoints.toList

/--
A command that is refused has a reason for it, leaves the whole session as it was and announces
nothing.
-/
theorem refusesCleanly_run (session : Session) (command : Command) :
    session.RefusesCleanly (command.run session) := by
  cases command with
  | start source trace breakpoints depths =>
      exact (session.refusesCleanly_restart source _ breakpoints).map Reply.report
  | forward action => exact refusesCleanly_of_ok rfl
  | stepBack => exact refusesCleanly_of_ok rfl
  | addBreakpoint line => exact (session.refusesCleanly_addBreakpoint line).breakpointTurn .added
  | removeBreakpoint line =>
      exact (session.refusesCleanly_removeBreakpoint line).breakpointTurn .removed
  | toggleBreakpoint line =>
      exact (session.refusesCleanly_toggleBreakpoint line).breakpointTurn .toggled
  | clearBreakpoints => exact refusesCleanly_of_ok rfl
  | runToLine line => exact (session.refusesCleanly_runToLine line).map Reply.report
  | getState => exact refusesCleanly_of_ok rfl
  | getScopeInfo line => exact refusesCleanly_of_ok rfl

/-- A query leaves the session as it was and announces nothing. -/
theorem run_of_isQuery {command : Command} (query : command.isQuery = true) :
    (command.run session).session = session ∧ (command.run session).event = none := by
  cases command with
  | getState => exact ⟨rfl, rfl⟩
  | getScopeInfo line => exact ⟨rfl, rfl⟩
  | _ => cases query

end Session

end Playback
