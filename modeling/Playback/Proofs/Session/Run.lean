import Playback.Proofs.Session.Change

/-!
# Runs of commands

A run gives a session one command after the other, refused ones included.  What the seven
changes keep, every run keeps.
-/

namespace Playback.Session

/-- The turns of commands given one after the other. -/
def turns (session : Session) : List Command → List (Turn (Except SessionError Reply))
  | [] => []
  | command :: rest =>
    let turn := command.run session
    turn :: turn.session.turns rest

/-- The session after commands given one after the other. -/
def after (session : Session) (commands : List Command) : Session :=
  commands.foldl (fun session command => (command.run session).session) session

/-- The events of commands given one after the other. -/
def eventsOf (session : Session) (commands : List Command) : List Event :=
  (session.turns commands).filterMap (·.event)

theorem eventsOf_cons (session : Session) (command : Command) (rest : List Command) :
    session.eventsOf (command :: rest) =
      (command.run session).event.toList ++ (command.run session).session.eventsOf rest := by
  rw [eventsOf, turns, List.filterMap_cons]
  cases (command.run session).event <;> rfl

@[simp]
theorem after_nil (session : Session) : session.after [] = session :=
  rfl

@[simp]
theorem after_cons (session : Session) (command : Command) (rest : List Command) :
    session.after (command :: rest) = (command.run session).session.after rest :=
  rfl

variable {kept : Session → Prop}

/-- What every change keeps still holds after a run. -/
theorem after_of_change
    (step : ∀ {session event changed}, Change session event changed →
      kept session → kept changed)
    {session : Session} (initial : kept session) (commands : List Command) :
    kept (session.after commands) := by
  induction commands generalizing session with
  | nil =>
      rw [after_nil]
      exact initial
  | cons command rest induction =>
      rw [after_cons]
      exact induction (step (session.run_change command) initial)

/-- No change touches the settings. -/
theorem Change.settings_eq {session changed : Session} {event : Option Event}
    (change : Change session event changed) : changed.settings = session.settings := by
  cases change <;> rfl

/-- A run is made under one choice of settings. -/
theorem settings_after (session : Session) (commands : List Command) :
    (session.after commands).settings = session.settings :=
  after_of_change (fun change same => change.settings_eq.trans same) rfl commands

end Playback.Session
