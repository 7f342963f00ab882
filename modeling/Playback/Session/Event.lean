/-!
# Events of a session

Whatever changes the position or the status of a session is announced by one event, which
carries the line and the index that the session stands on afterwards.
-/

namespace Playback

/-- What happened to a session. -/
inductive EventKind
  | start
  | step
  | breakpoint
  | stepBack
  | complete
  deriving DecidableEq, Repr

def EventKind.name : EventKind → String
  | .start => "start"
  | .step => "step"
  | .breakpoint => "breakpoint"
  | .stepBack => "step_back"
  | .complete => "complete"

/-- An announcement to the observers of a session. -/
structure Event where
  kind : EventKind
  /-- The line that the session stands on afterwards. -/
  line : Nat
  /-- The index that the session stands on afterwards. -/
  index : Nat
  deriving DecidableEq, Repr

end Playback
