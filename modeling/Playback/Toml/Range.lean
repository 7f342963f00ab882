import Playback.Toml.Scalar

/-!
# Numbers in range

An integer may be written with any number of digits, and a floating-point number with any
exponent.  Whoever looks at a value asks for its numbers to be in range: integers of 128 bits,
signed or unsigned, and floating-point numbers that are finite or say that they are not.  What
passed for an integer and stands for none is out of range.
-/

namespace Playback.Toml

/-- Whether an integer is a signed or an unsigned one of 128 bits. -/
def isWord (number : Int) : Bool :=
  -(Nat.pow 2 127 : Int) ≤ number && number < (Nat.pow 2 128 : Int)

mutual

def Value.inRange : Value → Bool
  | .integer literal => (integer? literal).any isWord
  | .float literal => isFloatInRange literal
  | .array items => itemsInRange items
  | .tables earlier last => tablesInRange earlier && membersInRange last
  | .table _ members => membersInRange members
  | .string _ | .boolean _ | .moment _ => true

/-- Whether all numbers in the items of an array are in range. -/
def itemsInRange : List Value → Bool
  | [] => true
  | item :: items => item.inRange && itemsInRange items

/-- Whether all numbers in the members of a table are in range. -/
def membersInRange : List (List Char × Value) → Bool
  | [] => true
  | (_, value) :: members => value.inRange && membersInRange members

def tablesInRange : List (List (List Char × Value)) → Bool
  | [] => true
  | members :: tables => membersInRange members && tablesInRange tables

end

end Playback.Toml
