import Playback.Recording.Basic
import Playback.Recording.Occurrence

/-!
# Errors of a session

Three reasons for which a session refuses a request, and two errors that stay inside: a visit that
is not found again breaks the session down, and a request to a session that is not active is
answered as such.
-/

namespace Playback

inductive SessionError
  /-- The recording to start on has no position. -/
  | emptyTrace
  /-- A line to stop at lies outside the source. -/
  | invalidLine (line sourceLines : Nat)
  | indexNotFound (missing : MissingLine)
  | inactive
  /-- The recording to start on has more or fewer depths than lines. -/
  | depthMismatch (mismatch : DepthMismatch)
  deriving DecidableEq, Repr

def SessionError.message : SessionError → String
  | .emptyTrace => "cannot start a session with an empty trace"
  | .invalidLine line sourceLines =>
    s!"invalid line number {line}: source has {sourceLines} lines"
  | .indexNotFound missing => missing.message
  | .inactive => "session is not active"
  | .depthMismatch mismatch => mismatch.message

end Playback
