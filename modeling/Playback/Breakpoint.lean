import Playback.Text.Blank
import Playback.Text.Numeral

/-!
# Breakpoints as text

A user names a breakpoint by its line, from one, with or without an at sign before it and
with blanks anywhere but inside the number.  Whether the source has that line is for the session
to say.
-/

namespace Playback

inductive BreakpointError
  | empty
  /-- What stands after the at sign is no 64-bit number. -/
  | badNumber (text : String) (reason : Text.NumeralError)
  | zero
  deriving DecidableEq, Repr

def BreakpointError.message : BreakpointError → String
  | .empty => "Empty breakpoint location"
  | .badNumber text reason => "Invalid line number '" ++ text ++ "': " ++ reason.message
  | .zero => "Line numbers are 1-based, got 0"

namespace Breakpoint

def dropAt : List Char → List Char
  | '@' :: rest => rest
  | text => text

def read (text : List Char) : Except BreakpointError Nat :=
  let trimmed := Text.trim text
  if trimmed.isEmpty then
    .error .empty
  else
    let number := Text.trim (dropAt trimmed)
    match Text.readNumeral number with
    | .error reason => .error (.badNumber (String.ofList number) reason)
    | .ok 0 => .error .zero
    | .ok (line + 1) => .ok (line + 1)

def display (line : Nat) : List Char :=
  '@' :: Text.numeral line

end Breakpoint

end Playback
