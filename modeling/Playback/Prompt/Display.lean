import Playback.Session.Basic
import Playback.Word

/-!
# What the prompt shows

The lines printed for the position, the state, the scope and the surroundings of a session.
Line numbers are set right in a column of four.
-/

namespace Playback.Prompt

/-- A number set right in a column of four characters. -/
def column (number : Nat) : String :=
  let digits := toString number
  String.ofList (List.replicate (4 - digits.length) ' ') ++ digits

/-- The text of a source line; a line that the source lacks is shown empty. -/
def lineText (session : Session) (line : Nat) : String :=
  (session.sourceLine? line).getD ""

def banner (session : Session) : String :=
  s!"retrace: {session.source.length} source lines, {session.trace.length} trace entries. " ++
    "Type 'help' for commands."

/-- The current position, once the session was started. -/
def position (session : Session) : List String :=
  let shown := session.snapshot
  match shown.line with
  | none => []
  | some line =>
    [s!"=> {column line} | {lineText session line}    " ++
      s!"[depth {shown.depth}, step {shown.index + 1}/{shown.totalSteps}]"]

def state (session : Session) : List String :=
  let shown := session.snapshot
  let line :=
    match shown.line with
    | some line => toString line
    | none => "-"
  [s!"Status:      {shown.status.name}",
    s!"Line:        {line}",
    s!"Step:        {shown.index + 1}/{shown.totalSteps}",
    s!"Depth:       {shown.depth}",
    s!"Scope:       {shown.kind.name}",
    "Breakpoints: [" ++ ", ".intercalate (shown.breakpoints.map toString) ++ "]",
    "Step back:   " ++ (if shown.canStepBack then "yes" else "no")]

def scope (session : Session) (line : Nat) : List String :=
  let judged := session.scopeOf line
  [s!"Line {line}: {judged.kind.name} scope, indent {judged.indent}" ++
    (if judged.opensBlock then ", opens a block" else "")]

def history (session : Session) : List String :=
  ["History: " ++ " -> ".intercalate (session.snapshot.history.map toString)]

/-- How many lines are listed above and below the current one. -/
def surroundings : Nat :=
  5

/-- One listed source line, with marks for the current line and for a breakpoint. -/
def listedLine (session : Session) (line : Nat) : String :=
  (if session.currentLine? = some line then ">" else " ") ++
    (if session.breakpoints.contains line then "*" else " ") ++
    s!"{column line} | {lineText session line}"

def listing (session : Session) : List String :=
  let center := session.currentLine?.getD 1
  let first := max (center - surroundings) 1
  let last := min (Word.add center surroundings) session.source.length
  (List.range' first (last + 1 - first)).map (listedLine session)

def help : List String :=
  ["Available commands:",
    "  step, s            Step to the next executed line",
    "  next, n            Step over calls",
    "  out, o             Step out of the current call",
    "  continue, c        Run to the next breakpoint",
    "  back, b            Return to the previous position",
    "  break, bp <line>   Set a breakpoint",
    "  delete, d <line>   Remove a breakpoint",
    "  toggle, t <line>   Toggle a breakpoint",
    "  clear              Remove all breakpoints",
    "  until, u <line>    Run until a line is reached",
    "  state, info        Show the session state",
    "  scope [line]       Show scope information",
    "  history            Show visited lines",
    "  list, l            Show source around the current line",
    "  help, h            Show this help",
    "  quit, q            Exit the debugger"]

end Playback.Prompt
