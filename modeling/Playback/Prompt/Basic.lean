import Playback.Breakpoint
import Playback.Prompt.Display
import Playback.Prompt.Request
import Playback.Text.Lines

/-!
# The interactive prompt

A prompt holds a started session and listens to it.  It takes one line after the other, does
what the line asks for and shows what came of it.  The events of the session wait in the
prompt until a movement is reported; a breakpoint among them is shown before the position.
Nothing that goes wrong with a line ends the prompt.
-/

namespace Playback

/-- A prompt on a session. -/
structure Prompt where
  session : Session
  /-- The events not yet reported, oldest first. -/
  pending : List Event := []

namespace Prompt

/-- What a line comes to: the lines shown, and the prompt afterwards. -/
structure Exchange where
  shown : List String
  prompt : Prompt

def hear {α : Type} (prompt : Prompt) (turn : Turn α) : Prompt :=
  { session := turn.session, pending := prompt.pending ++ turn.event.toList }

def errorLine (message : String) : String :=
  "Error: " ++ message

def breakpointLines (events : List Event) : List String :=
  (events.filter fun event => event.kind = .breakpoint).map fun event =>
    s!"Breakpoint hit at line {event.line}"

def outcomeLines (session : Session) : Outcome → List String
  | .active => position session
  | .complete => ["Execution complete"]
  | .inactive => [s!"No active session (status: {session.status.name})"]
  | .error => ["Trace does not match the source; session stopped"]

/-- Reports a movement, together with the events that wait. -/
def reportMove (prompt : Prompt) (turn : Turn Report) : Exchange :=
  let heard := prompt.hear turn
  { shown := breakpointLines heard.pending ++ outcomeLines heard.session turn.answer.outcome
    prompt := { heard with pending := [] } }

def display (prompt : Prompt) (shown : List String) : Exchange :=
  { shown, prompt }

def reportRefusal {α : Type} (prompt : Prompt) (turn : Turn α) (refused : SessionError) :
    Exchange :=
  (prompt.hear turn).display [errorLine refused.message]

def reportBreakpoint (prompt : Prompt) (line : Nat) (note : Bool → String)
    (turn : Turn (Except SessionError Bool)) : Exchange :=
  match turn.answer with
  | .error refused => prompt.reportRefusal turn refused
  | .ok flag => (prompt.hear turn).display [s!"Breakpoint {note flag} at line {line}"]

def doAtLine (prompt : Prompt) (line : Nat) : LineTask → Exchange
  | .setBreakpoint =>
    prompt.reportBreakpoint line (fun isNew => if isNew then "set" else "already set")
      (prompt.session.addBreakpoint line)
  | .clearBreakpoint =>
    prompt.reportBreakpoint line (fun wasSet => if wasSet then "removed" else "not set")
      (prompt.session.removeBreakpoint line)
  | .toggleBreakpoint =>
    prompt.reportBreakpoint line (fun isSet => if isSet then "set" else "removed")
      (prompt.session.toggleBreakpoint line)
  | .runUntil =>
    let turn := prompt.session.runToLine line
    match turn.accepted with
    | .ok move => prompt.reportMove move
    | .error refused => prompt.reportRefusal turn refused
  | .showScope => prompt.display (scope prompt.session line)

/-- Does something about the source line that an argument names. -/
def doAtArgument (prompt : Prompt) (task : LineTask) : Option (List Char) → Exchange
  | none => prompt.display ["Missing line number"]
  | some argument =>
    match Breakpoint.read argument with
    | .ok line => prompt.doAtLine line task
    | .error error => prompt.display [errorLine error.message]

/-- Does what a line asks for; asking to quit does nothing by itself. -/
def execute (prompt : Prompt) : Request → Exchange
  | .nothing | .quit => prompt.display []
  | .move action => prompt.reportMove (prompt.session.perform action)
  | .back => prompt.reportMove prompt.session.stepBack
  | .atLine task argument => prompt.doAtArgument task argument
  | .clear =>
    let turn := prompt.session.clearBreakpoints
    (prompt.hear turn).display [s!"Cleared {turn.answer} breakpoint(s)"]
  | .showState => prompt.display (state prompt.session)
  | .showScope =>
    match prompt.session.currentLine? with
    | some line => prompt.display (scope prompt.session line)
    | none => prompt.display ["No current line"]
  | .showHistory => prompt.display (history prompt.session)
  | .listSource => prompt.display (listing prompt.session)
  | .help => prompt.display help
  | .unknown word =>
    prompt.display
      ["Unknown command: " ++ String.ofList word ++ ". Type 'help' for available commands."]

/-- What some lines come to: an exchange for each line taken, and whether one of them quit. -/
structure Dialogue where
  exchanges : List Exchange
  quit : Bool

def converse (prompt : Prompt) : List (List Char) → Dialogue
  | [] => { exchanges := [], quit := false }
  | line :: rest =>
    match Request.ofLine line with
    | .quit => { exchanges := [prompt.execute .quit], quit := true }
    | request =>
      let exchange := prompt.execute request
      let later := exchange.prompt.converse rest
      { later with exchanges := exchange :: later.exchanges }

def invitation : String :=
  "(retrace) "

def linesText (lines : List String) : String :=
  String.join (lines.map (· ++ "\n"))

def transcript (session : Session) (input : List Char) : String :=
  let dialogue := converse { session } (Text.lines input)
  linesText (banner session :: position session) ++
    String.join (dialogue.exchanges.map fun exchange => invitation ++ linesText exchange.shown) ++
    (if dialogue.quit then "" else invitation ++ "\n")

end Prompt

end Playback
