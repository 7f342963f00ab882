import Playback.Command.Notation
import Playback.Rpc.Fault

/-!
# Methods of remote calls

A method is the name of a command behind a fixed word, and its parameters are the arguments
of that command.  A call is decoded first; then a session must have been started, unless the
command starts one or only looks; then the command is applied.
-/

namespace Playback.Rpc

open Json (Members Value)

/-- The word before the name of the command in every method. -/
def methodHead : String :=
  "retrace_"

def methodOf (name : String) : String :=
  methodHead ++ name

/-- The name of the command that a method stands for. -/
def commandName? (method : String) : Option String :=
  Command.names.find? fun name => methodOf name == method

/-- The arguments that parameters give: none if they are left out or `null`. -/
def paramMembers? : Option Value → Option Members
  | none | some .null => some []
  | some (.object members) => some (Members.lastOfEach members)
  | some _ => none

def command (method : String) (params : Option Value) : Except Fault Command :=
  match commandName? method with
  | none => .error (.methodNotFound method)
  | some name =>
    match paramMembers? params with
    | none => .error .paramsNotObject
    | some members =>
      match Command.ofMembers? (members.put "command" (.text name)) with
      | none => .error (.invalidParams method)
      | some command => .ok command

/-- Whether a command is pointless before a session was started. -/
def needsSession : Command → Bool
  | .start .. | .getState | .getScopeInfo _ => false
  | _ => true

/-- The turn that a call is; a call with a fault leaves the session as it is. -/
def call (session : Session) (method : String) (params : Option Value) :
    Turn (Except Fault Reply) :=
  match command method params with
  | .error fault => { answer := .error fault, session }
  | .ok command =>
    if session.status = .uninitialized && needsSession command then
      { answer := .error .noSession, session }
    else
      (command.run session).map fun reply => reply.mapError .refused

end Playback.Rpc
