import Playback.Text.Blank
import Playback.Text.LowerCase

/-!
# Forward actions

The four ways of moving forward through a recording, and the spellings by which a
user names them.  Spellings differ in case, in blanks around them, and in whether a
space, a hyphen or an underscore joins their words.
-/

namespace Playback

inductive Action
  | step
  /-- To the next position that is no deeper. -/
  | stepOver
  | stepOut
  | continue
  deriving DecidableEq, Repr

def Action.name : Action → String
  | .step => "step"
  | .stepOver => "step_over"
  | .stepOut => "step_out"
  | .continue => "continue"

/-- A word that names no action, in its normal form. -/
structure UnknownAction where
  spelling : String
  deriving DecidableEq, Repr

def UnknownAction.message (unknown : UnknownAction) : String :=
  "Unknown step action: " ++ unknown.spelling

/-- The normal form of a spelling: trimmed, in small letters, joined by underscores. -/
def normalSpelling (text : List Char) : List Char :=
  (Text.lower (Text.trim text)).map fun c => if c = ' ' || c = '-' then '_' else c

def Action.ofSpelling? : String → Option Action
  | "step" | "s" | "step_into" => some .step
  | "step_over" | "next" | "n" | "over" => some .stepOver
  | "step_out" | "out" | "o" | "finish" => some .stepOut
  | "continue" | "c" | "cont" => some .continue
  | _ => none

def Action.ofText (text : String) : Except UnknownAction Action :=
  let spelling := String.ofList (normalSpelling text.toList)
  match Action.ofSpelling? spelling with
  | some action => .ok action
  | none => .error ⟨spelling⟩

end Playback
