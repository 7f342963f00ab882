/-!
# Hexadecimal numerals

Escapes in quoted texts and the groups of host addresses are written with hexadecimal digits.
Letters of both cases are read; the lower-case ones are written.
-/

namespace Playback.Text

def hexDigit? (c : Char) : Option Nat :=
  if c.isDigit then
    some (c.toNat - '0'.toNat)
  else if 'a' ≤ c && c ≤ 'f' then
    some (c.toNat - 'a'.toNat + 10)
  else if 'A' ≤ c && c ≤ 'F' then
    some (c.toNat - 'A'.toNat + 10)
  else
    none

/-- The number that digits of a base stand for; no digits stand for zero. -/
def valueInBase (base : Nat) (digits : List Nat) : Nat :=
  digits.foldl (fun value digit => base * value + digit) 0

def hexValue? (digits : List Char) : Option Nat :=
  (digits.mapM hexDigit?).map (valueInBase 16)

/-- The hexadecimal digits of a number, without leading zeros. -/
def hexNumeral (number : Nat) : List Char :=
  Nat.toDigits 16 number

end Playback.Text
