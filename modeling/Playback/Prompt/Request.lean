import Playback.Stepping.Action
import Playback.Text.Blank

/-!
# Lines typed at the prompt

What a line asks for depends on its first word, and for requests about one source line on
its second word; further words are passed over.  Any spelling of a forward action, in one
word, asks for that action.  The other words are known in one spelling only.
-/

namespace Playback.Prompt

/-- What is asked for about one source line. -/
inductive LineTask
  | setBreakpoint
  | clearBreakpoint
  | toggleBreakpoint
  | runUntil
  | showScope
  deriving DecidableEq, Repr

/-- What a line asks for. -/
inductive Request
  | nothing
  | move (action : Action)
  | back
  /-- Something about a source line, as far as one is named. -/
  | atLine (task : LineTask) (argument : Option (List Char))
  | clear
  | showState
  /-- To show the judgement of the current line. -/
  | showScope
  | showHistory
  /-- To show the source around the current line. -/
  | listSource
  | help
  | quit
  | unknown (word : List Char)
  deriving DecidableEq, Repr

/-- What a first word other than an action asks for. -/
def Request.ofWord (word : List Char) (argument : Option (List Char)) : Request :=
  match String.ofList word with
  | "back" | "b" => .back
  | "break" | "bp" => .atLine .setBreakpoint argument
  | "delete" | "d" => .atLine .clearBreakpoint argument
  | "toggle" | "t" => .atLine .toggleBreakpoint argument
  | "clear" => .clear
  | "until" | "u" => .atLine .runUntil argument
  | "state" | "info" => .showState
  | "scope" => if argument.isSome then .atLine .showScope argument else .showScope
  | "history" => .showHistory
  | "list" | "l" => .listSource
  | "help" | "h" | "?" => .help
  | "quit" | "q" | "exit" => .quit
  | _ => .unknown word

def Request.ofLine (line : List Char) : Request :=
  match Text.words line with
  | [] => .nothing
  | word :: arguments =>
    match Action.ofText (String.ofList word) with
    | .ok action => .move action
    | .error _ => .ofWord word arguments.head?

end Playback.Prompt
