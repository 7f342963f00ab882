import Playback.Source.Scope

/-!
# Reports and snapshots

A report answers one movement: what came of it and where the session stands.  A snapshot
shows the whole session at one moment.
-/

namespace Playback

/-- Where a session is in its life. -/
inductive Status
  | uninitialized
  | active
  | complete
  | error
  deriving DecidableEq, Repr

def Status.name : Status → String
  | .uninitialized => "uninitialized"
  | .active => "active"
  | .complete => "complete"
  | .error => "error"

/-- What came of a movement. -/
inductive Outcome
  | active
  | complete
  /-- The session could not be moved, and nothing happened. -/
  | inactive
  /-- The recording contradicts the history of the session. -/
  | error
  deriving DecidableEq, Repr

def Outcome.name : Outcome → String
  | .active => "active"
  | .complete => "complete"
  | .inactive => "inactive"
  | .error => "error"

/-- The answer to a movement. -/
structure Report where
  /-- The line that the session stands on, if it can be moved on from there. -/
  line : Option Nat
  outcome : Outcome
  /-- The text of that line, if the source has it. -/
  text : Option String
  depth : Option Nat
  /-- The indentation of that line, if the source has it. -/
  indent : Option Nat
  /-- The kind of block that the line opens, if the source has it. -/
  kind : Option ScopeKind
  index : Nat
  deriving DecidableEq, Repr

/-- A session as shown at one moment. -/
structure Snapshot where
  status : Status
  isActive : Bool
  /-- The current line, once a session was started. -/
  line : Option Nat
  index : Nat
  /-- The lines with breakpoints, ascending. -/
  breakpoints : List Nat
  /-- The lines visited, oldest first. -/
  history : List Nat
  totalSteps : Nat
  depth : Nat
  indent : Nat
  kind : ScopeKind
  canStepBack : Bool
  deriving DecidableEq, Repr

end Playback
