import Playback.Proofs.Session.Observers
import Playback.Proofs.Session.Run
import Playback.Session.Watched

/-!
# Observers have no part in a session

A session is given commands while observers come and go.  Its turns are those of the session
alone, and what its observers are called with is what they would be called with if the events of
these turns were announced to them directly.  So all that is known of observers holds of those of a
session, and nothing that they do reaches the session.
-/

namespace Playback

namespace WatchedSession

/-- What can be done with a session that is watched. -/
inductive Operation
  | command (command : Command)
  | register (observer : Observer)
  | unregister (number : Nat)

def Operation.command? : Operation → Option Command
  | .command request => some request
  | .register _ | .unregister _ => none

/-- The watched session after an operation. -/
def apply (watched : WatchedSession) : Operation → WatchedSession
  | .command command => (watched.settle (command.run watched.session)).2
  | .register observer => (watched.register observer).2
  | .unregister number => (watched.unregister number).2

/-- The calls that an operation makes, in order. -/
def callsOf (watched : WatchedSession) : Operation → List Delivery
  | .command command => (watched.settle (command.run watched.session)).1
  | .register _ | .unregister _ => []

def after (watched : WatchedSession) (operations : List Operation) : WatchedSession :=
  operations.foldl apply watched

/-- The calls that a run makes, in order. -/
def calls (watched : WatchedSession) : List Operation → List Delivery
  | [] => []
  | operation :: rest => watched.callsOf operation ++ (watched.apply operation).calls rest

/-- The turns of the commands of a run. -/
def turns (watched : WatchedSession) :
    List Operation → List (Turn (Except SessionError Reply))
  | [] => []
  | .command command :: rest =>
    command.run watched.session :: (watched.apply (.command command)).turns rest
  | operation :: rest => (watched.apply operation).turns rest

/-- The commands of a run. -/
def commands (operations : List Operation) : List Command :=
  operations.filterMap (·.command?)

/-- What a run does with the observers alone: it announces the events of its commands to them. -/
def notices (session : Session) : List Operation → List Observers.Operation
  | [] => []
  | .command command :: rest =>
    let turn := command.run session
    turn.event.toList.map .notify ++ notices turn.session rest
  | .register observer :: rest => .register observer :: notices session rest
  | .unregister number :: rest => .unregister number :: notices session rest

variable {watched : WatchedSession}

@[simp]
theorem session_apply_command (command : Command) :
    (watched.apply (.command command)).session = (command.run watched.session).session := by
  rw [apply, settle]
  split <;> rfl

/-- A command tells its event to the observers and does nothing else with them. -/
theorem observers_apply_command (command : Command) :
    (watched.apply (.command command)).observers =
      watched.observers.after ((command.run watched.session).event.toList.map .notify) := by
  rw [apply, settle]
  split
  case h_1 silent =>
    rw [silent]
    rfl
  case h_2 event announced =>
    rw [announced]
    rfl

theorem callsOf_command (command : Command) :
    watched.callsOf (.command command) =
      watched.observers.calls ((command.run watched.session).event.toList.map .notify) := by
  rw [callsOf, settle]
  split
  case h_1 silent =>
    rw [silent]
    rfl
  case h_2 event announced =>
    rw [announced]
    exact (List.append_nil _).symm

/-- The turns of a watched session are those of the session alone. -/
theorem turns_eq (watched : WatchedSession) (operations : List Operation) :
    watched.turns operations = watched.session.turns (commands operations) := by
  induction operations generalizing watched with
  | nil => rfl
  | cons operation rest induction =>
      cases operation with
      | command command =>
          rw [turns, induction, session_apply_command]
          rfl
      | register observer => exact induction (watched.apply (.register observer))
      | unregister number => exact induction (watched.apply (.unregister number))

theorem session_after (watched : WatchedSession) (operations : List Operation) :
    (watched.after operations).session = watched.session.after (commands operations) := by
  induction operations generalizing watched with
  | nil => rfl
  | cons operation rest induction =>
      cases operation with
      | command command =>
          have next := induction (watched.apply (.command command))
          rw [session_apply_command] at next
          exact next
      | register observer => exact induction (watched.apply (.register observer))
      | unregister number => exact induction (watched.apply (.unregister number))

/-- The observers of a session are called as they would be without the session. -/
theorem calls_eq (watched : WatchedSession) (operations : List Operation) :
    watched.calls operations =
      watched.observers.calls (notices watched.session operations) := by
  induction operations generalizing watched with
  | nil => rfl
  | cons operation rest induction =>
      rw [calls, induction]
      cases operation with
      | command command =>
          rw [callsOf_command, observers_apply_command, session_apply_command]
          exact (Observers.along_append _ _ _ _).symm
      | register observer => rfl
      | unregister number => rfl

/-- The observers of a session come to be as they would without the session. -/
theorem observers_after (watched : WatchedSession) (operations : List Operation) :
    (watched.after operations).observers =
      watched.observers.after (notices watched.session operations) := by
  induction operations generalizing watched with
  | nil => rfl
  | cons operation rest induction =>
      cases operation with
      | command command =>
          have next := induction (watched.apply (.command command))
          rw [observers_apply_command, session_apply_command, ← Observers.after_append] at next
          exact next
      | register observer => exact induction (watched.apply (.register observer))
      | unregister number => exact induction (watched.apply (.unregister number))

theorem commands_map_command (requests : List Command) :
    commands (requests.map .command) = requests := by
  rw [commands, List.filterMap_map]
  exact List.filterMap_some

/-- Commands alone announce their events and do nothing else with the observers. -/
theorem notices_map_command (session : Session) (requests : List Command) :
    notices session (requests.map .command) = (session.eventsOf requests).map .notify := by
  induction requests generalizing session with
  | nil => rfl
  | cons command rest induction =>
      rw [List.map_cons, notices, induction, Session.eventsOf_cons, List.map_append]

/--
Commands that lead to the same session by the same events do the same to a watched session, and they
make the same calls, whatever the observers do.
-/
theorem map_command_congr {left right : List Command}
    (sessions : watched.session.after left = watched.session.after right)
    (events : watched.session.eventsOf left = watched.session.eventsOf right) :
    watched.after (left.map .command) = watched.after (right.map .command) ∧
      watched.calls (left.map .command) = watched.calls (right.map .command) := by
  have same : notices watched.session (left.map .command) =
      notices watched.session (right.map .command) := by
    rw [notices_map_command, notices_map_command, events]
  constructor
  · have session : (watched.after (left.map .command)).session =
        (watched.after (right.map .command)).session := by
      rw [session_after, session_after, commands_map_command, commands_map_command, sessions]
    have observers : (watched.after (left.map .command)).observers =
        (watched.after (right.map .command)).observers := by
      rw [observers_after, observers_after, same]
    calc
      watched.after (left.map .command) =
          ⟨(watched.after (left.map .command)).session,
            (watched.after (left.map .command)).observers⟩ := rfl
      _ = watched.after (right.map .command) := by rw [session, observers]
  · rw [calls_eq, calls_eq, same]

end WatchedSession

/--
Whatever is done with observers, each is called with the events from its registration to its
removal and with no others, whatever the other observers do.  And whatever is done with a session
that is watched, its turns and the session afterwards are those of the session alone, and its
observers are called as if the events of the turns were announced to them directly.
-/
theorem deliveries_exact (operations : List Observers.Operation) (watched : WatchedSession)
    (acts : List WatchedSession.Operation) :
    Observers.Delivers operations ∧
      watched.turns acts = watched.session.turns (WatchedSession.commands acts) ∧
      (watched.after acts).session =
        watched.session.after (WatchedSession.commands acts) ∧
      watched.calls acts =
        watched.observers.calls (WatchedSession.notices watched.session acts) :=
  ⟨Observers.delivers operations, watched.turns_eq acts, watched.session_after acts,
    watched.calls_eq acts⟩

end Playback
