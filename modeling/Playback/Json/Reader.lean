import Playback.Json.Token

/-!
# Reading JSON

The second half of reading: the tokens of a text are put together to one value.  Arrays and
objects may be nested 127 deep; a text nested deeper is refused, and so is one with anything after
its value.
-/

namespace Playback.Json

def maxNesting : Nat :=
  127

mutual

/-- Reads a value nested at most `nesting` deep; `fuel` bounds the tokens used. -/
def value? : (fuel nesting : Nat) → List Token → Option (Value × List Token)
  | 0, _, _ => none
  | _ + 1, _, .null :: rest => some (.null, rest)
  | _ + 1, _, .boolean flag :: rest => some (.boolean flag, rest)
  | _ + 1, _, .number value :: rest => some (.number value, rest)
  | _ + 1, _, .text content :: rest => some (.text content, rest)
  | _ + 1, _ + 1, .openArray :: .closeArray :: rest => some (.array [], rest)
  | fuel + 1, nesting + 1, .openArray :: rest =>
    (items? fuel nesting rest).map fun (items, rest) => (.array items, rest)
  | _ + 1, _ + 1, .openObject :: .closeObject :: rest => some (.object [], rest)
  | fuel + 1, nesting + 1, .openObject :: rest =>
    (members? fuel nesting rest).map fun (members, rest) => (.object members, rest)
  | _ + 1, _, _ => none

/-- Reads one or more items and the end of their array. -/
def items? : (fuel nesting : Nat) → List Token → Option (List Value × List Token)
  | 0, _, _ => none
  | fuel + 1, nesting, tokens =>
    match value? fuel nesting tokens with
    | some (item, .closeArray :: rest) => some ([item], rest)
    | some (item, .comma :: rest) =>
      (items? fuel nesting rest).map fun (items, rest) => (item :: items, rest)
    | _ => none

/-- Reads one or more members and the end of their object. -/
def members? : (fuel nesting : Nat) → List Token → Option (Members × List Token)
  | 0, _, _ => none
  | fuel + 1, nesting, .text key :: .colon :: tokens =>
    match value? fuel nesting tokens with
    | some (value, .closeObject :: rest) => some ([(key, value)], rest)
    | some (value, .comma :: rest) =>
      (members? fuel nesting rest).map fun (members, rest) => ((key, value) :: members, rest)
    | _ => none
  | _ + 1, _, _ => none

end

def ofTokens? (tokens : List Token) : Option Value :=
  match value? (2 * tokens.length + 1) maxNesting tokens with
  | some (value, []) => some value
  | _ => none

def read? (text : List Char) : Option Value :=
  (tokens? text).bind ofTokens?

end Playback.Json
