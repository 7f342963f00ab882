import Playback.Session.Basic

/-!
# Commands

A command is one request to a session as a value, and a reply is what the session answers.  Every
way of talking to a session, by lines of JSON, by remote calls or at the prompt, comes down to
commands; running one is the same request made directly.
-/

namespace Playback

/-- A request to a session. -/
inductive Command
  | start (source : String) (trace : List Nat) (breakpoints : List Nat)
      (depths : Option (List Nat))
  | forward (action : Action)
  | stepBack
  | addBreakpoint (line : Nat)
  | removeBreakpoint (line : Nat)
  | toggleBreakpoint (line : Nat)
  | clearBreakpoints
  | runToLine (line : Nat)
  | getState
  | getScopeInfo (line : Nat)
  deriving DecidableEq, Repr

def Command.name : Command → String
  | .start .. => "start"
  | .forward action => action.name
  | .stepBack => "step_back"
  | .addBreakpoint _ => "add_breakpoint"
  | .removeBreakpoint _ => "remove_breakpoint"
  | .toggleBreakpoint _ => "toggle_breakpoint"
  | .clearBreakpoints => "clear_breakpoints"
  | .runToLine _ => "run_to_line"
  | .getState => "get_state"
  | .getScopeInfo _ => "get_scope_info"

def Command.names : List String :=
  ["start", "step", "step_over", "step_out", "continue", "step_back", "add_breakpoint",
    "remove_breakpoint", "toggle_breakpoint", "clear_breakpoints", "run_to_line", "get_state",
    "get_scope_info"]

inductive Reply
  | report (report : Report)
  /-- Whether a breakpoint set is new, and the breakpoints afterwards. -/
  | added (isNew : Bool) (breakpoints : List Nat)
  /-- Whether a breakpoint cleared was set, and the breakpoints afterwards. -/
  | removed (wasSet : Bool) (breakpoints : List Nat)
  /-- Whether a breakpoint flipped is set now, and the breakpoints afterwards. -/
  | toggled (isSet : Bool) (breakpoints : List Nat)
  /-- How many breakpoints were cleared, and the breakpoints afterwards. -/
  | cleared (count : Nat) (breakpoints : List Nat)
  | state (snapshot : Snapshot)
  | scope (scope : Scope)
  deriving DecidableEq, Repr

/-- The turn of a change of the breakpoints, answered with the breakpoints afterwards. -/
def breakpointTurn (reply : Bool → List Nat → Reply) (turn : Turn (Except SessionError Bool)) :
    Turn (Except SessionError Reply) :=
  turn.map fun answer => answer.map fun flag => reply flag turn.session.breakpoints.toList

def Command.run (session : Session) : Command → Turn (Except SessionError Reply)
  | .start source trace breakpoints depths =>
    (session.restart source { lines := trace, depths } breakpoints).map (·.map .report)
  | .forward action => (session.perform action).map fun answer => .ok (.report answer)
  | .stepBack => session.stepBack.map fun answer => .ok (.report answer)
  | .addBreakpoint line => breakpointTurn .added (session.addBreakpoint line)
  | .removeBreakpoint line => breakpointTurn .removed (session.removeBreakpoint line)
  | .toggleBreakpoint line => breakpointTurn .toggled (session.toggleBreakpoint line)
  | .clearBreakpoints =>
    let turn := session.clearBreakpoints
    turn.map fun count => .ok (.cleared count turn.session.breakpoints.toList)
  | .runToLine line => (session.runToLine line).map (·.map .report)
  | .getState => { answer := .ok (.state session.snapshot), session }
  | .getScopeInfo line => { answer := .ok (.scope (session.scopeOf line)), session }

end Playback
