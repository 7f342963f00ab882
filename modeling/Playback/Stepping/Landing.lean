import Playback.Stepping.Action
import Playback.Stepping.LineSet
import Playback.Word

/-!
# Where an action lands

Every action looks after the current index for the first position that suits it.  Nothing
here assumes that the executed lines and their depths are equally many, or that the index
lies inside them.
-/

namespace Playback

/-- The answer to an action. -/
inductive Landing
  | moved (index : Nat)
  | pastEnd
  /-- No call is open that could be left. -/
  | topLevel
  deriving DecidableEq, Repr

namespace Stepping

/--
The index after `index`.  No list has as many entries as there are 64-bit numbers, so the sum
can wrap around only outside of it.
-/
def next (entries : List Nat) (index : Nat) : Nat :=
  if index < entries.length then index + 1 else Word.add index 1

/-- Lands on the first entry after `index` that is accepted. -/
def firstAfter (entries : List Nat) (index : Nat) (accepts : Nat → Bool) : Landing :=
  let start := next entries index
  match (entries.drop start).findIdx? accepts with
  | some offset => .moved (start + offset)
  | none => .pastEnd

def step (lines : List Nat) (index : Nat) : Landing :=
  let target := next lines index
  if target < lines.length then .moved target else .pastEnd

/-- Lands on the next position that is no deeper than the current one. -/
def stepOver (depths : List Nat) (index : Nat) : Landing :=
  match depths[index]? with
  | none => .pastEnd
  | some current => firstAfter depths index fun depth => depth ≤ current

/-- Lands on the next position that is shallower than the current one. -/
def stepOut (depths : List Nat) (index : Nat) : Landing :=
  match depths[index]? with
  | none => .pastEnd
  | some 0 => .topLevel
  | some current => firstAfter depths index fun depth => depth < current

/-- Lands on the next position whose line has a breakpoint. -/
def continueTo (lines : List Nat) (breakpoints : LineSet) (index : Nat) : Landing :=
  if breakpoints.toList.isEmpty then
    .pastEnd
  else
    firstAfter lines index breakpoints.contains

end Stepping

/-- What the actions look at. -/
structure Course where
  lines : List Nat
  depths : List Nat
  breakpoints : LineSet

def Course.land (course : Course) (action : Action) (index : Nat) : Landing :=
  match action with
  | .step => Stepping.step course.lines index
  | .stepOver => Stepping.stepOver course.depths index
  | .stepOut => Stepping.stepOut course.depths index
  | .continue => Stepping.continueTo course.lines course.breakpoints index

end Playback
