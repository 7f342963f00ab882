import Playback.Session.Error

/-!
# Faults of remote calls

Everything that can go wrong with a remote call, with the code and the wording by which the
caller is told.  Codes from -32700 up are those of JSON-RPC; the session's own errors, and the lack
of a session, have codes from -33000 down.
-/

namespace Playback.Rpc

inductive Fault
  | wrongVersion
  | methodNotFound (method : String)
  /-- The parameters are something other than an object. -/
  | paramsNotObject
  | invalidParams (method : String)
  /-- No session was started, and the method needs one. -/
  | noSession
  | refused (error : SessionError)
  deriving DecidableEq, Repr

def refusalCode : SessionError → Int
  | .emptyTrace => -33001
  | .invalidLine .. => -33002
  | .indexNotFound _ => -33003
  | .inactive => -33004
  | .depthMismatch _ => -32602

def Fault.code : Fault → Int
  | .wrongVersion => -32600
  | .methodNotFound _ => -32601
  | .paramsNotObject => -32602
  | .invalidParams _ => -32602
  | .noSession => -33004
  | .refused error => refusalCode error

def Fault.message : Fault → String
  | .wrongVersion => "Invalid Request - JSON-RPC version must be 2.0"
  | .methodNotFound method => "Method '" ++ method ++ "' not found"
  | .paramsNotObject => "Parameters must be a JSON object"
  | .invalidParams method => "Invalid parameters for '" ++ method ++ "'"
  | .noSession => "No session has been started; call retrace_start first"
  | .refused error => error.message

end Playback.Rpc
