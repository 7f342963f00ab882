/-!
# The layout of TOML documents

Blanks separate the parts of a line.  A line ends at a line feed, with or without a carriage
return before it, or at the end of the document, and a comment runs to the end of its line.
Control characters are allowed in neither.
-/

namespace Playback.Toml

def isBlank (c : Char) : Bool :=
  c = ' ' || c = '\t'

/-- Whether a character may stand in no text and no comment. -/
def isControl (c : Char) : Bool :=
  (c.toNat < 0x20 && c != '\t') || c.toNat = 0x7f

def skipBlanks (text : List Char) : List Char :=
  text.dropWhile isBlank

/-- The text after one line break, if it starts with one. -/
def skipLineBreak : List Char → List Char
  | '\n' :: rest => rest
  | '\r' :: '\n' :: rest => rest
  | text => text

/-- The text after leading blanks, line breaks and comments. -/
def skipGap : (inComment : Bool) → List Char → List Char
  | _, [] => []
  | _, '\n' :: rest => skipGap false rest
  | _, '\r' :: '\n' :: rest => skipGap false rest
  | true, c :: rest => if isControl c then c :: rest else skipGap true rest
  | false, c :: rest =>
    if c = '#' then
      skipGap true rest
    else if isBlank c then
      skipGap false rest
    else
      c :: rest

/-- The text after the end of a line on which only blanks and a comment are left. -/
def lineEnd? : (inComment : Bool) → List Char → Option (List Char)
  | _, [] => some []
  | _, '\n' :: rest => some rest
  | _, '\r' :: '\n' :: rest => some rest
  | true, c :: rest => if isControl c then none else lineEnd? true rest
  | false, c :: rest =>
    if c = '#' then
      lineEnd? true rest
    else if isBlank c then
      lineEnd? false rest
    else
      none

end Playback.Toml
