import Playback.Text.FloatRange
import Playback.Text.Hexadecimal
import Playback.Text.Numeral
import Playback.Toml.Moment
import Playback.Toml.Quoted
import Playback.Toml.Value

/-!
# Values without parts

A value without parts is a quoted text or a word, and the spelling of a word tells whether it is a
truth value, an integer, a floating-point number, a date or a time.  The size of a number does not
matter, and what an integer stands for is only asked when it is looked at: until then a word passes
for an integer by its first digits and by what stands next to its underscores.
-/

namespace Playback.Toml

/-- Digits in a row, where single underscores may stand between two of them. -/
def ungrouped? (isDigit : Char → Bool) : List Char → Option (List Char)
  | [] => none
  | [c] => if isDigit c then some [c] else none
  | c :: '_' :: rest => if isDigit c then (ungrouped? isDigit rest).map (c :: ·) else none
  | c :: rest => if isDigit c then (ungrouped? isDigit rest).map (c :: ·) else none

def wholeDigits? (text : List Char) : Option (List Char) :=
  match ungrouped? Char.isDigit text with
  | some ('0' :: _ :: _) => none
  | digits => digits

/-! ## Integers -/

def inBase? (base : Nat) (text : List Char) : Option Int :=
  (ungrouped? (fun c => (Text.hexDigit? c).any (· < base)) text).map fun digits =>
    (Text.valueInBase base (digits.filterMap Text.hexDigit?) : Int)

def decimal? (text : List Char) : Option Int :=
  (wholeDigits? text).map fun digits => (Text.digitsValue digits : Int)

def integer? : List Char → Option Int
  | '0' :: 'x' :: digits => inBase? 16 digits
  | '0' :: 'o' :: digits => inBase? 8 digits
  | '0' :: 'b' :: digits => inBase? 2 digits
  | '+' :: digits => decimal? digits
  | '-' :: digits => (decimal? digits).map (-·)
  | digits => decimal? digits

def dropSign : List Char → List Char
  | '+' :: rest => rest
  | '-' :: rest => rest
  | text => text

/-- Whether a character may stand next to an underscore in an integer. -/
def isGroupEnd (c : Char) : Bool :=
  (Text.hexDigit? c).isSome

/--
Whether groups may follow the first digits of an integer: at every underscore there are digits on
both sides.
-/
def areGroups : List (List Char) → Bool
  | [] => false
  | [last] => last.head?.any isGroupEnd
  | group :: groups =>
    group.head?.any isGroupEnd && group.getLast?.any isGroupEnd && areGroups groups

/-- Whether a character in a word that starts with digits makes it something other than an
integer. -/
def isForeignToInteger (c : Char) : Bool :=
  c = '.' || c = 'e' || c = 'E' || c = ' '

/-- Whether a text passes for grouped decimal digits: only its first group need be digits alone. -/
def isDecimalLike (text : List Char) : Bool :=
  match text.splitOn '_' with
  | first :: groups =>
    first != ['0'] && (wholeDigits? first).isSome && areGroups groups &&
      !text.any isForeignToInteger
  | [] => false

/-- Whether a word names the base of an integer and nothing else. -/
def isBaseAlone (word : List Char) : Bool :=
  word = ['0', 'x'] || word = ['0', 'o'] || word = ['0', 'b']

def isInteger (word : List Char) : Bool :=
  (integer? word).isSome || isBaseAlone word || isDecimalLike (dropSign word)

/-! ## Floating-point numbers -/

/-- A number of digits, a fraction and a power of ten. -/
structure Decimal where
  whole : List Char
  fraction : List Char := []
  exponent : Int := 0
  deriving DecidableEq, Repr

def Decimal.isFinite (decimal : Decimal) : Bool :=
  let significand := Text.digitsValue (decimal.whole ++ decimal.fraction)
  let scale := decimal.exponent - (decimal.fraction.length : Int)
  let size := scale + ((Text.numeral significand).length : Int)
  significand = 0 || size < 308 ||
    (size < 311 &&
      significand * Nat.pow 10 scale.toNat < Text.overflowBound * Nat.pow 10 (-scale).toNat)

def isDigitOrUnderscore (c : Char) : Bool :=
  c.isDigit || c = '_'

/-- The power of ten that the digits of an exponent stand for, with or without a sign. -/
def signedExponent? : List Char → Option Int
  | '-' :: rest => (ungrouped? Char.isDigit rest).map fun digits => -(Text.digitsValue digits : Int)
  | '+' :: rest => (ungrouped? Char.isDigit rest).map fun digits => (Text.digitsValue digits : Int)
  | text => (ungrouped? Char.isDigit text).map fun digits => (Text.digitsValue digits : Int)

def exponent? : List Char → Option Int
  | 'e' :: rest => signedExponent? rest
  | 'E' :: rest => signedExponent? rest
  | _ => none

/-- The decimal that digits with a fraction, an exponent or both spell. -/
def fractional? (text : List Char) : Option Decimal :=
  match wholeDigits? (text.takeWhile isDigitOrUnderscore),
    text.dropWhile isDigitOrUnderscore with
  | some whole, '.' :: rest =>
    match ungrouped? Char.isDigit (rest.takeWhile isDigitOrUnderscore),
      rest.dropWhile isDigitOrUnderscore with
    | some fraction, [] => some { whole, fraction }
    | some fraction, rest => (exponent? rest).map fun exponent => { whole, fraction, exponent }
    | none, _ => none
  | some whole, rest => (exponent? rest).map fun exponent => { whole, exponent }
  | none, _ => none

/-- Whether a word spells infinity or no number at all. -/
def isSpecialFloat (word : List Char) : Bool :=
  dropSign word = ['i', 'n', 'f'] || dropSign word = ['n', 'a', 'n']

def isFloat (word : List Char) : Bool :=
  isSpecialFloat word || (fractional? (dropSign word)).isSome

/-- Whether a word spells a floating-point number that is finite or says that it is not. -/
def isFloatInRange (word : List Char) : Bool :=
  isSpecialFloat word || (fractional? (dropSign word)).any Decimal.isFinite

/-! ## Words -/

def isSeparator (c : Char) : Bool :=
  isBlank c || c = '=' || c = ',' || c = '[' || c = ']' || c = '{' || c = '}' || c = '#' ||
    c = '\n' || c = '\r'

/-- Whether a text starts with something that belongs to the word before the blanks before it. -/
def goesOn : List Char → Bool
  | c :: _ => !isSeparator c && c != '"' && c != '\''
  | [] => false

/-- A text cut after its first word.  Blanks belong to the word when it goes on after them. -/
def cutWord : List Char → List Char × List Char
  | c :: rest =>
    if !isSeparator c || (isBlank c && goesOn (skipBlanks rest)) then
      match cutWord rest with
      | (word, rest) => (c :: word, rest)
    else
      ([], c :: rest)
  | [] => ([], [])

def ofWord? (word : List Char) : Option Value :=
  if word = ['t', 'r', 'u', 'e'] then
    some (.boolean true)
  else if word = ['f', 'a', 'l', 's', 'e'] then
    some (.boolean false)
  else if isFloat word then
    some (.float word)
  else if isMoment word then
    some (.moment word)
  else if isInteger word then
    some (.integer word)
  else
    none

def scalar? (text : List Char) : Option (Value × List Char) :=
  match text? text with
  | some (content, rest) => some (.string content, rest)
  | none =>
    match cutWord text with
    | (word, rest) => (ofWord? word).map fun value => (value, rest)

end Playback.Toml
