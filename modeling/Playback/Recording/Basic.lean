import Playback.Source.Scope

/-!
# Recordings

A recording is what a tracer leaves of one run: the source lines executed, in
order, and the call depth at each of them if the tracer saw calls.  The two lists
may differ in length; whoever starts a session on a recording checks that.  A frame is what
the debugger knows about one recorded position.
-/

namespace Playback

/-- A recorded execution. -/
structure Recording where
  /-- The executed lines, counted from one. -/
  lines : List Nat
  /-- The call depth at each position, if it was recorded. -/
  depths : Option (List Nat) := none
  deriving DecidableEq, Repr

/-- A recording with more or fewer depths than lines. -/
structure DepthMismatch where
  expected : Nat
  found : Nat
  deriving DecidableEq, Repr

/-- The wording for a recording with more or fewer depths than lines. -/
def DepthMismatch.message (mismatch : DepthMismatch) : String :=
  s!"recorded depths cover {mismatch.found} trace entries, expected {mismatch.expected}"

/-- What is known about one recorded position. -/
structure Frame where
  /-- How many calls are open; zero at the top level. -/
  depth : Nat
  indent : Nat
  /-- The kind of block that the line opens. -/
  kind : ScopeKind
  line : Nat
  deriving DecidableEq, Repr

end Playback
