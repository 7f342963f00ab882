import Playback.Text.Numeral

/-!
# Dates and times

A date has a year of four digits, a month and a day that the calendar has.  A time has hours and
minutes, and it may have seconds, of which there may be sixty for a leap second, with or without
a fraction.  A date may be followed by a time, and that by its offset from universal time.
-/

namespace Playback.Toml

def daysInMonth (year month : Nat) : Nat :=
  if month = 2 then
    if year % 4 = 0 && (year % 100 != 0 || year % 400 = 0) then 29 else 28
  else if month = 4 || month = 6 || month = 9 || month = 11 then
    30
  else if 1 ≤ month && month ≤ 12 then
    31
  else
    0

/-- The number of a few digits, if they are digits. -/
def digitsNumber? (digits : List Char) : Option Nat :=
  if digits.all Char.isDigit then some (Text.digitsValue digits) else none

/-- Whether a number of a few digits is at most a bound. -/
def isUpTo (bound : Nat) (digits : List Char) : Bool :=
  (digitsNumber? digits).any (· ≤ bound)

def date? : List Char → Option (List Char)
  | a :: b :: c :: d :: '-' :: e :: f :: '-' :: g :: h :: rest =>
    match digitsNumber? [a, b, c, d], digitsNumber? [e, f], digitsNumber? [g, h] with
    | some year, some month, some day =>
      if 1 ≤ day && day ≤ daysInMonth year month then some rest else none
    | _, _, _ => none
  | _ => none

/-- The text after the fraction of a second, if there is one. -/
def secondFraction? : List Char → Option (List Char)
  | '.' :: rest =>
    if (rest.takeWhile Char.isDigit).isEmpty then none else some (rest.dropWhile Char.isDigit)
  | text => some text

/-- The text after a time.  A colon that no seconds follow is left over. -/
def time? : List Char → Option (List Char)
  | a :: b :: ':' :: c :: d :: ':' :: e :: f :: rest =>
    if isUpTo 23 [a, b] && isUpTo 59 [c, d] && isUpTo 60 [e, f] then
      secondFraction? rest
    else
      none
  | a :: b :: ':' :: c :: d :: rest =>
    if isUpTo 23 [a, b] && isUpTo 59 [c, d] then some rest else none
  | _ => none

/-- Whether a text is the offset of a time, or nothing. -/
def isOffset : List Char → Bool
  | [] => true
  | ['Z'] => true
  | ['z'] => true
  | [sign, a, b, ':', c, d] => (sign = '+' || sign = '-') && isUpTo 23 [a, b] && isUpTo 59 [c, d]
  | _ => false

def isDate (text : List Char) : Bool :=
  date? text = some []

/-- Whether a character may stand between a date and a time. -/
def isDateEnd (c : Char) : Bool :=
  c = 'T' || c = 't' || c = ' '

/-- Whether a text is a date, a time, or a date with a time. -/
def isMoment (text : List Char) : Bool :=
  match date? text with
  | some [] => true
  | some (c :: rest) => isDateEnd c && (time? rest).any isOffset
  | none => time? text = some []

end Playback.Toml
