/-!
# Decimal numerals of 64-bit numbers

Line numbers, trace entries and depths are written in decimal and read back only
when they fit 64 bits.
-/

namespace Playback.Text

/-- The greatest 64-bit number. -/
def maxWord : Nat :=
  Nat.pow 2 64 - 1

/-- The digits of a number, without leading zeros. -/
def numeral (number : Nat) : List Char :=
  Nat.toDigits 10 number

/-- The number that decimal digits stand for; no digits stand for zero. -/
def digitsValue (digits : List Char) : Nat :=
  Nat.ofDigitChars 10 digits 0

inductive NumeralError
  | empty
  /-- A character other than a digit stands where a digit is due. -/
  | invalidDigit
  /-- The digits stand for a number above `maxWord`. -/
  | tooLarge
  deriving DecidableEq, Repr

def NumeralError.message : NumeralError → String
  | .empty => "cannot parse integer from empty string"
  | .invalidDigit => "invalid digit found in string"
  | .tooLarge => "number too large to fit in target type"

def dropPlus : List Char → List Char
  | '+' :: rest => rest
  | text => text

/--
Reads a 64-bit number with an optional plus sign.  Digits are taken from the left, so
a number that is already too large is refused as such whatever follows it.
-/
def readNumeral (text : List Char) : Except NumeralError Nat :=
  let body := dropPlus text
  let digits := body.takeWhile Char.isDigit
  if text.isEmpty then
    .error .empty
  else if maxWord < digitsValue digits then
    .error .tooLarge
  else if digits.isEmpty || digits.length < body.length then
    .error .invalidDigit
  else
    .ok (digitsValue digits)

end Playback.Text
