import Playback.Text.Numeral

/-!
# JSON values

The values of JSON with the distinctions that the readers of this library make: a number
literal is a run of digits, such a run behind a minus sign, or anything else that JSON allows.
An object keeps all its members in order, repeated keys included; whether a repeated key is
refused or the last one counts is for its reader to say.
-/

namespace Playback.Json

inductive Number
  | whole (magnitude : Nat)
  | negative (magnitude : Nat)
  /-- A literal with a fraction or an exponent, as it was written. -/
  | decimal (literal : String)
  deriving DecidableEq, Repr

inductive Value
  | null
  | boolean (flag : Bool)
  | number (value : Number)
  | text (content : String)
  | array (items : List Value)
  | object (members : List (String × Value))
  deriving Repr

abbrev Members :=
  List (String × Value)

namespace Value

def natural (number : Nat) : Value :=
  .number (.whole number)

def naturals (numbers : List Nat) : Value :=
  .array (numbers.map natural)

def optional {α : Type} (write : α → Value) : Option α → Value
  | none => .null
  | some content => write content

/-- The 64-bit number that a value is. -/
def natural? : Value → Option Nat
  | .number (.whole magnitude) => if magnitude ≤ Text.maxWord then some magnitude else none
  | _ => none

def text? : Value → Option String
  | .text content => some content
  | _ => none

/-- The list of 64-bit numbers that a value is. -/
def naturals? : Value → Option (List Nat)
  | .array items => items.mapM natural?
  | _ => none

/-- The list of 64-bit numbers that a value is, or `null` for none. -/
def optionalNaturals? : Value → Option (Option (List Nat))
  | .null => some none
  | value => value.naturals?.map some

end Value

namespace Members

/-- What an object says about one key. -/
inductive Entry
  | missing
  | once (value : Value)
  | repeated

def entry (members : Members) (key : String) : Entry :=
  match members.filter (·.1 == key) with
  | [] => .missing
  | [(_, value)] => .once value
  | _ => .repeated

def lastOfEach : Members → Members
  | [] => []
  | member :: rest =>
    if rest.any (·.1 == member.1) then lastOfEach rest else member :: lastOfEach rest

/-- The members with a value under a key, in place of any that they had under it. -/
def put (members : Members) (key : String) (value : Value) : Members :=
  (key, value) :: members.filter (·.1 != key)

end Members

end Playback.Json
