/-!
# TOML values

A document is a table of named values.  A table remembers how it came to be, because that decides
what may still be added to it.  Numbers, dates and times are kept as they were written.
-/

namespace Playback.Toml

abbrev Key :=
  List Char

/-- How a table came to be. -/
inductive Origin
  | header
  /-- It stands on the way to a table that a header names. -/
  | implied
  /-- It stands on the way to a member that a dotted key names. -/
  | dotted
  | inline
  deriving DecidableEq, Repr

inductive Value
  | string (content : List Char)
  | integer (literal : List Char)
  | float (literal : List Char)
  | boolean (flag : Bool)
  /-- A date, a time or both. -/
  | moment (literal : List Char)
  | array (items : List Value)
  /-- The tables that headers in double brackets add one by one. -/
  | tables (earlier : List (List (List Char × Value))) (last : List (List Char × Value))
  | table (origin : Origin) (members : List (List Char × Value))

/-- Whether a value is an array or a table with nothing in it. -/
def Value.isEmpty : Value → Bool
  | .array items => items.isEmpty
  | .table _ members => members.isEmpty
  | _ => false

abbrev Members :=
  List (Key × Value)

namespace Members

def get? (members : Members) (key : Key) : Option Value :=
  (members.find? fun member => member.1 = key).map Prod.snd

/-- Changes the value of a key; a new key comes last. -/
def alter (key : Key) (change : Option Value → Option Value) : Members → Option Members
  | [] => (change none).map fun value => [(key, value)]
  | (other, value) :: rest =>
    if other = key then
      (change (some value)).map fun value => (other, value) :: rest
    else
      (alter key change rest).map ((other, value) :: ·)

/-- Adds a value under a key that must be new. -/
def add (key : Key) (value : Value) (members : Members) : Option Members :=
  members.alter key fun
    | none => some value
    | some _ => none

end Members

end Playback.Toml
