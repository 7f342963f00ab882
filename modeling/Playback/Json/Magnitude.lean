import Playback.Text.FloatRange
import Playback.Text.Numeral

/-!
# The range of JSON numbers

A number literal is in range when it stands for a finite 64-bit floating-point number.  Its value
is found in two roundings: the leading digits, as many as fit 64 bits, and the power of ten that
scales them are each rounded to 53 binary digits, and then their product is.  The range ends where
that product rounds to more than the largest finite number.  Only literals within a few
units of the last place of that number depend on the two roundings.
-/

namespace Playback.Json

/-- A number rounded to 53 binary digits; of two equally near ones the even one is taken. -/
def nearestFloat (number : Nat) : Nat :=
  let unit := Nat.pow 2 (number.log2 + 1 - 53)
  let quotient := number / unit
  let rest := number % unit
  if unit < 2 * rest || (unit = 2 * rest && quotient % 2 = 1) then
    (quotient + 1) * unit
  else
    quotient * unit

/-- The number of the leading digits that fit 64 bits, and how many digits it leaves out. -/
def leadingDigits (significand : Nat) : List Char → Nat × Nat
  | [] => (significand, 0)
  | digit :: rest =>
    let next := 10 * significand + Text.digitsValue [digit]
    if Text.maxWord < next then (significand, rest.length + 1) else leadingDigits next rest

structure Literal where
  negative : Bool
  whole : List Char
  fraction : List Char
  /-- The exponent, if there is one: whether it is negative, and its digits. -/
  exponent : Option (Bool × List Char)
  deriving DecidableEq, Repr

/-- Whether a literal is digits alone, but for a minus sign. -/
def Literal.isWhole (literal : Literal) : Bool :=
  literal.fraction.isEmpty && literal.exponent.isNone

def exponentValue : Option (Bool × List Char) → Int
  | none => 0
  | some (true, digits) => -(Text.digitsValue digits : Int)
  | some (false, digits) => Text.digitsValue digits

def Literal.inRange (literal : Literal) : Bool :=
  let (significand, skipped) := leadingDigits 0 (literal.whole ++ literal.fraction)
  let scale : Int :=
    (skipped : Int) - (literal.fraction.length : Int) + exponentValue literal.exponent
  significand = 0 || scale < 0 ||
    (scale ≤ 308 && nearestFloat significand * nearestFloat (Nat.pow 10 scale.toNat) <
      Text.overflowBound)

end Playback.Json
