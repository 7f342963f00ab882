import Playback.Json.Printer
import Playback.Json.Reader
import Playback.Recording.Basic

/-!
# Recording files

A recording file is JSON: a list of executed lines alone, or an object with that list under
`lines` and, if the tracer saw calls, the depths under `depths`.  Unknown members are passed
over; `lines` and `depths` may not be repeated.  Recordings are always written as objects.
-/

namespace Playback

open Json (Members Value)

namespace Recording

/-- The depths that an object gives: none if they are missing or `null`. -/
def depthsOf? (members : Members) : Option (Option (List Nat)) :=
  match members.entry "depths" with
  | .missing => some none
  | .once value => value.optionalNaturals?
  | .repeated => none

/-- The recording that the members of an object spell out. -/
def ofMembers? (members : Members) : Option Recording :=
  match members.entry "lines" with
  | .once value => do
    return { lines := ← value.naturals?, depths := ← depthsOf? members }
  | _ => none

def ofJson? : Value → Option Recording
  | .array items => (Value.array items).naturals?.map fun lines => { lines }
  | .object members => ofMembers? members
  | _ => none

def read? (text : List Char) : Option Recording :=
  (Json.read? text).bind ofJson?

def unreadableMessage : String :=
  "Failed to parse execution trace JSON"

def toJson (recording : Recording) : Value :=
  .object <|
    ("lines", .naturals recording.lines) ::
      match recording.depths with
      | none => []
      | some depths => [("depths", .naturals depths)]

end Recording

end Playback
