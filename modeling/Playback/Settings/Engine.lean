/-!
# Settings of the stepping engine

The three choices a user has: how wide a tab is, what stepping out does where no call
is open, and how far back a session remembers.
-/

namespace Playback

/-- What stepping out does where no call is open. -/
inductive TopLevelStepOut
  /-- It keeps the position, and the session goes on. -/
  | stay
  /-- It ends the session like running past the end. -/
  | complete
  deriving DecidableEq, Repr

def TopLevelStepOut.name : TopLevelStepOut → String
  | .stay => "stay"
  | .complete => "complete"

def TopLevelStepOut.ofName? : String → Option TopLevelStepOut
  | "stay" => some .stay
  | "complete" => some .complete
  | _ => none

structure EngineSettings where
  tabWidth : Nat := 4
  topLevelStepOut : TopLevelStepOut := .stay
  /-- How many visits a session keeps; zero means all of them. -/
  maxHistory : Nat := 0
  deriving DecidableEq, Repr

end Playback
