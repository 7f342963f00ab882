/-!
# Lines of a text

A line ends at a line feed, and one carriage return right before that line feed
belongs to the line end.  A carriage return anywhere else is part of the line, also
at the end of a last line that no line feed closes.  A text that ends in a line
feed has no further, empty line.
-/

namespace Playback.Text

/-- A line read backwards, without the carriage return of its line end. -/
def dropReturn : List Char → List Char
  | '\r' :: line => line
  | line => line

/-- The lines of `text`, where `current` holds the part of the first line already read,
backwards. -/
def linesFrom (current : List Char) : List Char → List (List Char)
  | [] => if current.isEmpty then [] else [current.reverse]
  | c :: rest =>
    if c = '\n' then
      (dropReturn current).reverse :: linesFrom [] rest
    else
      linesFrom (c :: current) rest

def lines (text : List Char) : List (List Char) :=
  linesFrom [] text

end Playback.Text
