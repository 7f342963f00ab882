import Playback.Json.Printer
import Playback.Rpc.Method
import Playback.Wire.Records

/-!
# Requests and responses

The envelope of a remote call: a version, a method, parameters and an identifier that the
response carries back.  A request is read from an object with these four members, unknown
ones passed over, or from an array of the four in that order.
-/

namespace Playback.Rpc

open Json (Members Value)

/-- What ties a response to its request. -/
inductive Identifier
  | number (value : Nat)
  | text (content : String)
  deriving DecidableEq, Repr

/-- A remote call as it arrives. -/
structure Request where
  version : String
  method : String
  params : Option Value
  id : Identifier

/-- The answer to a remote call. -/
structure Response where
  id : Identifier
  outcome : Except Fault Reply

def version : String :=
  "2.0"

def Identifier.ofJson? : Value → Option Identifier
  | .text content => some (.text content)
  | value => value.natural?.map .number

/-- The parameters that a JSON value is; `null` stands for none. -/
def paramsOf : Value → Option Value
  | .null => none
  | value => some value

def Request.ofParts? (version method params id : Value) : Option Request := do
  return {
    version := ← version.text?
    method := ← method.text?
    params := paramsOf params
    id := ← Identifier.ofJson? id }

/-- The request that the members of an object spell out. -/
def Request.ofMembers? (members : Members) : Option Request :=
  match members.entry "jsonrpc", members.entry "method", members.entry "id" with
  | .once version, .once method, .once id =>
    match members.entry "params" with
    | .missing => ofParts? version method .null id
    | .once params => ofParts? version method params id
    | .repeated => none
  | _, _, _ => none

def Request.ofJson? : Value → Option Request
  | .object members => ofMembers? members
  | .array [version, method, params, id] => ofParts? version method params id
  | _ => none

def respond (session : Session) (request : Request) : Turn Response :=
  if request.version = version then
    (call session request.method request.params).map fun outcome => { id := request.id, outcome }
  else
    { answer := { id := request.id, outcome := .error .wrongVersion }, session }

def Identifier.toJson : Identifier → Value
  | .number value => .natural value
  | .text content => .text content

def integer (number : Int) : Value :=
  if 0 ≤ number then .natural number.natAbs else .number (.negative number.natAbs)

def Fault.toJson (fault : Fault) : Value :=
  .object [("code", integer fault.code), ("message", .text fault.message)]

def Response.toJson (response : Response) : Value :=
  let outcome :=
    match response.outcome with
    | .ok reply => ("result", reply.toJson)
    | .error fault => ("error", fault.toJson)
  .object [("jsonrpc", .text version), outcome, ("id", response.id.toJson)]

end Playback.Rpc
