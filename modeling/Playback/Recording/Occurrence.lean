/-!
# Occurrences of a line

Loops and recursion run a line many times, so a line alone names no position of a
recording.  A position is named by its line and its rank, the number of earlier
positions with the same line.  Finding the position of a rank is the inverse of counting.
-/

namespace Playback

/-- A line that was looked for from an index on and does not occur there. -/
structure MissingLine where
  line : Nat
  start : Nat
  deriving DecidableEq, Repr

def MissingLine.message (missing : MissingLine) : String :=
  s!"line {missing.line} does not occur in the trace at or after index {missing.start}"

namespace Recording

/-- The first index at or after `start` that holds `line`. -/
def indexFrom? (lines : List Nat) (line start : Nat) : Option Nat :=
  ((lines.drop start).findIdx? (· == line)).map (start + ·)

/-- The first index at or after `start` that holds `line`, or what is missing. -/
def locate (lines : List Nat) (line start : Nat) : Except MissingLine Nat :=
  match indexFrom? lines line start with
  | some index => .ok index
  | none => .error ⟨line, start⟩

/-- The index of the occurrence of `line` that has `rank` occurrences between it and `start`. -/
def nthFrom (lines : List Nat) (line : Nat) : (start rank : Nat) → Except MissingLine Nat
  | start, 0 => locate lines line start
  | start, rank + 1 =>
    match locate lines line start with
    | .ok index => nthFrom lines line (index + 1) rank
    | .error missing => .error missing

/-- The index of the occurrence of `line` with exactly `rank` earlier ones. -/
def nth (lines : List Nat) (line rank : Nat) : Except MissingLine Nat :=
  nthFrom lines line 0 rank

/-- How many positions before `index` hold `line`. -/
def rankAt (lines : List Nat) (line index : Nat) : Nat :=
  (lines.take index).count line

end Recording

end Playback
