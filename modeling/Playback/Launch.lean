import Playback.Breakpoint
import Playback.Recording.File
import Playback.Session.Basic

/-!
# Launching a session from texts

A user names breakpoints, a source and a recording file.  The breakpoints are read first, then
the recording, and then a session is started on all of it.
-/

namespace Playback

inductive LaunchError
  | badBreakpoint (error : BreakpointError)
  | unreadableRecording
  | refused (error : SessionError)
  deriving DecidableEq, Repr

/-- The wording for a session that could not be launched. -/
def LaunchError.message : LaunchError → String
  | .badBreakpoint error => error.message
  | .unreadableRecording => "Invalid trace file"
  | .refused error => "Failed to start debugging session: " ++ error.message

def Breakpoint.readAll (breakpoints : List String) : Except LaunchError (List Nat) :=
  breakpoints.mapM fun breakpoint =>
    (Breakpoint.read breakpoint.toList).mapError .badBreakpoint

/-- Starts a session on a source and a recording file with breakpoints already read. -/
def Session.launch (settings : EngineSettings) (source recordingText : String)
    (breakpoints : List Nat) : Except LaunchError Session :=
  match Recording.read? recordingText.toList with
  | none => .error .unreadableRecording
  | some recording =>
    match (Session.new settings).start source recording breakpoints with
    | .ok turn => .ok turn.session
    | .error refused => .error (.refused refused)

end Playback
