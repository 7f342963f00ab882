import Playback.Recording.Basic

/-!
# Call depths of a recording

A plain list of executed lines shows no calls, so the calls are guessed from jumps
and indentation.  Going back up the source onto the head of a function enters it.
Going to a smaller indent leaves every open call whose head is not strictly left of
the line reached, and so does going down the source onto a line that is not nested in
the innermost open call.  Anything else keeps the open calls.  The depth of a position
is the number of calls open there.

A tracer that saw the calls hands its own depths over.  They are taken as they
are, except that the first one counts as zero.
-/

namespace Playback.Recording

/-- A call believed to be open, by the line and the indent of the head of its function. -/
structure Call where
  line : Nat
  indent : Nat
  deriving DecidableEq, Repr

/-- Whether going from line `previous` to `line` enters the function that `line` heads. -/
def entersCall (table : ScopeTable) (previous line : Nat) : Bool :=
  line < previous && (table.get line).opensFunction

/-- The open calls, innermost first, after those at or right of `indent` are left. -/
def unwind (indent : Nat) (calls : List Call) : List Call :=
  calls.dropWhile fun call => indent ≤ call.indent

/-- The open calls after going from line `previous` to `line`. -/
def nextCalls (table : ScopeTable) (calls : List Call) (previous line : Nat) : List Call :=
  let indent := (table.get line).indent
  if entersCall table previous line then
    { line, indent } :: calls
  else if indent < (table.get previous).indent then
    unwind indent calls
  else if previous < line && calls.head?.any (fun innermost => indent ≤ innermost.indent) then
    unwind indent calls
  else
    calls

/-- The open calls at every position after one at `previous`, where `calls` are open. -/
def callsFrom (table : ScopeTable) (calls : List Call) (previous : Nat) :
    List Nat → List (List Call)
  | [] => []
  | line :: rest =>
    let calls := nextCalls table calls previous line
    calls :: callsFrom table calls line rest

/-- The calls open at every recorded position; none are open at the first. -/
def openCalls (table : ScopeTable) : List Nat → List (List Call)
  | [] => []
  | first :: rest => [] :: callsFrom table [] first rest

def frameAt (table : ScopeTable) (line depth : Nat) : Frame :=
  let scope := table.get line
  { depth, indent := scope.indent, kind := scope.kind, line }

/-- The frames of a recording without depths, guessed from jumps and indentation. -/
def guessedFrames (table : ScopeTable) (lines : List Nat) : List Frame :=
  List.zipWith (fun line calls => frameAt table line calls.length) lines (openCalls table lines)

/-- The frames of a recording with depths, for lists of equal length. -/
def recordedFrames (table : ScopeTable) (lines depths : List Nat) : List Frame :=
  let base := depths.headD 0
  List.zipWith (fun line depth => frameAt table line (depth - base)) lines depths

/-- The frames of a recording: from its depths if it has them, guessed otherwise. -/
def frames (table : ScopeTable) (recording : Recording) : Except DepthMismatch (List Frame) :=
  match recording.depths with
  | none => .ok (guessedFrames table recording.lines)
  | some depths =>
    if depths.length = recording.lines.length then
      .ok (recordedFrames table recording.lines depths)
    else
      .error { expected := recording.lines.length, found := depths.length }

end Playback.Recording
