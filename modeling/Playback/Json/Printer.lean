import Playback.Json.Token

/-!
# Printing JSON

A value is printed without any white space.  In strings the quote, the backslash and the
control characters are escaped, the frequent ones by a letter, and nothing else is; so a
printed value is one line whatever its strings hold.
-/

namespace Playback.Json

mutual

def Value.tokens : Value → List Token
  | .null => [.null]
  | .boolean flag => [.boolean flag]
  | .number value => [.number value]
  | .text content => [.text content]
  | .array items => .openArray :: itemTokens items ++ [.closeArray]
  | .object members => .openObject :: memberTokens members ++ [.closeObject]

/-- The tokens of the items of an array, with commas between them. -/
def itemTokens : List Value → List Token
  | [] => []
  | [item] => item.tokens
  | item :: next :: items => item.tokens ++ .comma :: itemTokens (next :: items)

/-- The tokens of the members of an object, with commas between them. -/
def memberTokens : List (String × Value) → List Token
  | [] => []
  | [(key, value)] => .text key :: .colon :: value.tokens
  | (key, value) :: next :: members =>
    .text key :: .colon :: (value.tokens ++ .comma :: memberTokens (next :: members))

end

def hexDigit (number : Nat) : Char :=
  if number < 10 then Char.ofNat (number + '0'.toNat) else Char.ofNat (number - 10 + 'a'.toNat)

/-- The text that stands for a character in a string. -/
def escape (c : Char) : List Char :=
  if c = '"' then ['\\', '"']
  else if c = '\\' then ['\\', '\\']
  else if c = '\n' then ['\\', 'n']
  else if c = '\r' then ['\\', 'r']
  else if c = '\t' then ['\\', 't']
  else if c = '\x08' then ['\\', 'b']
  else if c = '\x0c' then ['\\', 'f']
  else if c.toNat < 0x20 then
    ['\\', 'u', '0', '0', hexDigit (c.toNat / 16), hexDigit (c.toNat % 16)]
  else [c]

def quoted (content : String) : List Char :=
  '"' :: content.toList.flatMap escape ++ ['"']

def Number.spelling : Number → List Char
  | .whole magnitude => Text.numeral magnitude
  | .negative magnitude => '-' :: Text.numeral magnitude
  | .decimal literal => literal.toList

def Token.spelling : Token → List Char
  | .openObject => ['{']
  | .closeObject => ['}']
  | .openArray => ['[']
  | .closeArray => [']']
  | .comma => [',']
  | .colon => [':']
  | .null => "null".toList
  | .boolean true => "true".toList
  | .boolean false => "false".toList
  | .number value => value.spelling
  | .text content => quoted content

def Value.spelling (value : Value) : List Char :=
  value.tokens.flatMap Token.spelling

def Value.print (value : Value) : String :=
  String.ofList value.spelling

end Playback.Json
