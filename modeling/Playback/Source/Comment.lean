/-!
# Comments at the end of a line

A number sign starts a comment unless it stands inside a string literal.  A literal
runs from a quote to the next quote of the same kind; a backslash in it takes the
following character along, whatever that is.  Outside of literals a backslash has
no meaning.  A literal that the line leaves open hides every number sign after it.
-/

namespace Playback.Source

def isQuote (c : Char) : Bool :=
  c = '"' || c = '\''

/-- The part of a line before its comment, read inside the literal that `literal` names, if any. -/
def codeFrom : (literal : Option Char) → List Char → List Char
  | _, [] => []
  | some quote, '\\' :: c :: rest => '\\' :: c :: codeFrom (some quote) rest
  | some quote, c :: rest => c :: codeFrom (if c = quote then none else some quote) rest
  | none, c :: rest =>
    if c = '#' then
      []
    else
      c :: codeFrom (if isQuote c then some c else none) rest

def stripComment (line : List Char) : List Char :=
  codeFrom none line

end Playback.Source
