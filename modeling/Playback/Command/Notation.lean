import Playback.Command.Basic
import Playback.Json.Printer
import Playback.Json.Reader

/-!
# Commands as JSON

A command is written as an object with a word for it under `command` and its arguments beside it.
It is read from that form, with unknown members passed over, and also from an array: the word, then
the arguments in a fixed order.  Arguments with a default value may be left out: of a start, the
breakpoints and the depths.  The word and the arguments of a command may not be repeated; an
unknown member may.  The words are given here for themselves, apart from the names of commands.
-/

namespace Playback

open Json (Members Value)

namespace Command

/-- The arguments of a command of a name, in the order of the array form. -/
def parameters? : (name : String) → Option (List String)
  | "start" => some ["source", "trace", "breakpoints", "depths"]
  | "add_breakpoint" | "remove_breakpoint" | "toggle_breakpoint" | "run_to_line"
  | "get_scope_info" => some ["line"]
  | "step" | "step_over" | "step_out" | "continue" | "step_back" | "clear_breakpoints"
  | "get_state" => some []
  | _ => none

/-- The breakpoints that a start is given; none if they are left out. -/
def breakpoints? : Option Value → Option (List Nat)
  | none => some []
  | some value => value.naturals?

/-- The depths that a start is given; none if they are left out or `null`. -/
def depths? : Option Value → Option (Option (List Nat))
  | none => some none
  | some value => value.optionalNaturals?

/-- The command of a name with its arguments, in order, each given or left out. -/
def ofArguments? (name : String) (arguments : List (Option Value)) : Option Command :=
  match name, arguments with
  | "start", [some source, some trace, breakpoints, depths] => do
    return .start (← source.text?) (← trace.naturals?) (← breakpoints? breakpoints)
      (← depths? depths)
  | "step", [] => some (.forward .step)
  | "step_over", [] => some (.forward .stepOver)
  | "step_out", [] => some (.forward .stepOut)
  | "continue", [] => some (.forward .continue)
  | "step_back", [] => some .stepBack
  | "add_breakpoint", [some line] => line.natural?.map .addBreakpoint
  | "remove_breakpoint", [some line] => line.natural?.map .removeBreakpoint
  | "toggle_breakpoint", [some line] => line.natural?.map .toggleBreakpoint
  | "clear_breakpoints", [] => some .clearBreakpoints
  | "run_to_line", [some line] => line.natural?.map .runToLine
  | "get_state", [] => some .getState
  | "get_scope_info", [some line] => line.natural?.map .getScopeInfo
  | _, _ => none

/-- The argument that an object gives under a key, if it gives it at most once. -/
def argument? (members : Members) (key : String) : Option (Option Value) :=
  match members.entry key with
  | .missing => some none
  | .once value => some (some value)
  | .repeated => none

/-- The command that the members of an object spell out. -/
def ofMembers? (members : Members) : Option Command :=
  match members.entry "command" with
  | .once (.text name) => do
    let parameters ← parameters? name
    let arguments ← parameters.mapM (argument? members)
    ofArguments? name arguments
  | _ => none

/-- The command that a name and the items after it spell out. -/
def ofItems? (name : String) (items : List Value) : Option Command := do
  let parameters ← parameters? name
  if items.length ≤ parameters.length then
    ofArguments? name
      (items.map some ++ List.replicate (parameters.length - items.length) none)
  else
    none

def ofJson? : Value → Option Command
  | .object members => ofMembers? members
  | .array (.text name :: items) => ofItems? name items
  | _ => none

def read? (text : List Char) : Option Command :=
  (Json.read? text).bind ofJson?

/-- The word that a command is written with. -/
def tag : Command → String
  | .start .. => "start"
  | .forward .step => "step"
  | .forward .stepOver => "step_over"
  | .forward .stepOut => "step_out"
  | .forward .continue => "continue"
  | .stepBack => "step_back"
  | .addBreakpoint _ => "add_breakpoint"
  | .removeBreakpoint _ => "remove_breakpoint"
  | .toggleBreakpoint _ => "toggle_breakpoint"
  | .clearBreakpoints => "clear_breakpoints"
  | .runToLine _ => "run_to_line"
  | .getState => "get_state"
  | .getScopeInfo _ => "get_scope_info"

/-- The arguments that a command is written with, under their keys. -/
def arguments : Command → Members
  | .start source trace breakpoints depths =>
    [("source", .text source), ("trace", .naturals trace),
      ("breakpoints", .naturals breakpoints)] ++
      match depths with
      | none => []
      | some depths => [("depths", .naturals depths)]
  | .addBreakpoint line | .removeBreakpoint line | .toggleBreakpoint line | .runToLine line
  | .getScopeInfo line => [("line", .natural line)]
  | .forward _ | .stepBack | .clearBreakpoints | .getState => []

def toJson (command : Command) : Value :=
  .object (("command", .text command.tag) :: command.arguments)

end Command

end Playback
