import Playback.Json.Magnitude
import Playback.Json.Value
import Playback.Text.Hexadecimal

/-!
# Tokens of a JSON text

The first half of reading: the text is cut into punctuation, words, numbers and strings, and
the white space between them, of four kinds only, is dropped.  A text with a character that
starts no token has no tokens at all.
-/

namespace Playback.Json

inductive Token
  | openObject
  | closeObject
  | openArray
  | closeArray
  | comma
  | colon
  | null
  | boolean (flag : Bool)
  | number (value : Number)
  | text (content : String)
  deriving DecidableEq, Repr

def isSpace (c : Char) : Bool :=
  c = ' ' || c = '\t' || c = '\n' || c = '\r'

/-! ## Numbers -/

def Literal.spelling (literal : Literal) : List Char :=
  (if literal.negative then ['-'] else []) ++ literal.whole ++
    (if literal.fraction.isEmpty then [] else '.' :: literal.fraction) ++
    match literal.exponent with
    | none => []
    | some (negative, digits) => 'e' :: (if negative then ['-'] else []) ++ digits

def Literal.number (literal : Literal) : Number :=
  if literal.isWhole then
    if literal.negative then
      .negative (Text.digitsValue literal.whole)
    else
      .whole (Text.digitsValue literal.whole)
  else
    .decimal (String.ofList literal.spelling)

def digits? (text : List Char) : Option (List Char × List Char) :=
  match text.takeWhile Char.isDigit with
  | [] => none
  | digits => some (digits, text.dropWhile Char.isDigit)

/-- Reads the digits before the point; a zero stands alone. -/
def wholeDigits? (text : List Char) : Option (List Char × List Char) :=
  match digits? text with
  | some ('0' :: _ :: _, _) => none
  | other => other

/-- Reads a point and the digits after it, if there is one. -/
def fraction? : List Char → Option (List Char × List Char)
  | '.' :: rest => digits? rest
  | text => some ([], text)

def exponentDigits? : List Char → Option (Option (Bool × List Char) × List Char)
  | '-' :: rest => (digits? rest).map fun (digits, rest) => (some (true, digits), rest)
  | '+' :: rest => (digits? rest).map fun (digits, rest) => (some (false, digits), rest)
  | text => (digits? text).map fun (digits, rest) => (some (false, digits), rest)

/-- Reads an exponent, if there is one. -/
def exponent? : List Char → Option (Option (Bool × List Char) × List Char)
  | 'e' :: rest => exponentDigits? rest
  | 'E' :: rest => exponentDigits? rest
  | text => some (none, text)

def magnitude? (negative : Bool) (text : List Char) : Option (Literal × List Char) := do
  let (whole, rest) ← wholeDigits? text
  let (fraction, rest) ← fraction? rest
  let (exponent, rest) ← exponent? rest
  return ({ negative, whole, fraction, exponent }, rest)

def literal? : List Char → Option (Literal × List Char)
  | '-' :: rest => magnitude? true rest
  | text => magnitude? false text

def number? (text : List Char) : Option (Number × List Char) :=
  match literal? text with
  | some (literal, rest) => if literal.inRange then some (literal.number, rest) else none
  | none => none

/-! ## Strings -/

/-- A piece of a string: a character, or a UTF-16 unit written as an escape. -/
inductive Piece
  | character (c : Char)
  | unit (code : Nat)

def unit? (a b c d : Char) : Option Nat :=
  Text.hexValue? [a, b, c, d]

/-- The character that a backslash and one more character stand for. -/
def escaped? : Char → Option Char
  | '"' => some '"'
  | '\\' => some '\\'
  | '/' => some '/'
  | 'b' => some '\x08'
  | 'f' => some '\x0c'
  | 'n' => some '\n'
  | 'r' => some '\r'
  | 't' => some '\t'
  | _ => none

/-- Reads the pieces of a string up to its closing quote. -/
def pieces? : List Char → Option (List Piece × List Char)
  | '"' :: rest => some ([], rest)
  | '\\' :: 'u' :: a :: b :: c :: d :: rest =>
    match unit? a b c d, pieces? rest with
    | some code, some (pieces, rest) => some (.unit code :: pieces, rest)
    | _, _ => none
  | '\\' :: c :: rest =>
    match escaped? c, pieces? rest with
    | some c, some (pieces, rest) => some (.character c :: pieces, rest)
    | _, _ => none
  | c :: rest =>
    if c.toNat < 0x20 then
      none
    else
      match pieces? rest with
      | some (pieces, rest) => some (.character c :: pieces, rest)
      | none => none
  | [] => none

/-- Whether a unit is the first half of a surrogate pair. -/
def isHighSurrogate (code : Nat) : Bool :=
  0xD800 ≤ code && code ≤ 0xDBFF

/-- Whether a unit is the second half of a surrogate pair. -/
def isLowSurrogate (code : Nat) : Bool :=
  0xDC00 ≤ code && code ≤ 0xDFFF

def pairCharacter (high low : Nat) : Char :=
  Char.ofNat (0x10000 + (high - 0xD800) * 0x400 + (low - 0xDC00))

/-- Joins the pieces of a string; a surrogate without its other half is refused. -/
def joinPieces? : List Piece → Option (List Char)
  | [] => some []
  | .character c :: rest => (joinPieces? rest).map (c :: ·)
  | .unit high :: .unit low :: rest =>
    if isHighSurrogate high then
      if isLowSurrogate low then
        (joinPieces? rest).map (pairCharacter high low :: ·)
      else
        none
    else if isLowSurrogate high then
      none
    else
      (joinPieces? (.unit low :: rest)).map (Char.ofNat high :: ·)
  | .unit code :: rest =>
    if isHighSurrogate code || isLowSurrogate code then
      none
    else
      (joinPieces? rest).map (Char.ofNat code :: ·)

def string? (text : List Char) : Option (String × List Char) :=
  match pieces? text with
  | some (pieces, rest) => (joinPieces? pieces).map fun content => (String.ofList content, rest)
  | none => none

/-! ## Token streams -/

def token? : List Char → Option (Token × List Char)
  | '{' :: rest => some (.openObject, rest)
  | '}' :: rest => some (.closeObject, rest)
  | '[' :: rest => some (.openArray, rest)
  | ']' :: rest => some (.closeArray, rest)
  | ',' :: rest => some (.comma, rest)
  | ':' :: rest => some (.colon, rest)
  | 'n' :: 'u' :: 'l' :: 'l' :: rest => some (.null, rest)
  | 't' :: 'r' :: 'u' :: 'e' :: rest => some (.boolean true, rest)
  | 'f' :: 'a' :: 'l' :: 's' :: 'e' :: rest => some (.boolean false, rest)
  | '"' :: rest => (string? rest).map fun (content, rest) => (.text content, rest)
  | text => (number? text).map fun (number, rest) => (.number number, rest)

/-- The tokens of a text; `fuel` is at least the length of the text. -/
def tokensWithin? : (fuel : Nat) → List Char → Option (List Token)
  | _, [] => some []
  | 0, _ => none
  | fuel + 1, c :: rest =>
    if isSpace c then
      tokensWithin? fuel rest
    else
      match token? (c :: rest) with
      | some (token, rest) => (tokensWithin? fuel rest).map (token :: ·)
      | none => none

def tokens? (text : List Char) : Option (List Token) :=
  tokensWithin? text.length text

end Playback.Json
