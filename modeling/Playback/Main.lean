import Playback.Conversation
import Playback.Launch
import Playback.Options
import Playback.Prompt.Basic
import Playback.Rpc.Envelope
import Playback.Settings.File

/-!
# The command line

Reads files and lines, hands them to the library and prints what it answers.  A settings file that
is not there is written with the defaults.  Remote calls arrive one a line, and a line that is no
call is passed over.
-/

namespace Playback.CommandLine

/-- Reads one line without its end; there is none at the end of the input. -/
def readLine? (input : IO.FS.Stream) : IO (Option (List Char)) := do
  let line ← input.getLine
  return if line.isEmpty then none else some ((Text.lines line.toList).headD [])

def write (text : String) : IO Unit := do
  let output ← IO.getStdout
  output.putStr text
  output.flush

def fail {α : Type} (message : String) : IO α :=
  throw (IO.userError message)

/-- Where the settings file is, unless the command line names one. -/
def settingsPath (named : Option String) : IO String := do
  match named with
  | some path => return path
  | none =>
    match ← IO.getEnv "HOME" with
    | some home => return home ++ "/.retrace.toml"
    | none => fail "Unable to determine home directory"

/-- The text of a file, if it can be read. -/
def readFile? (path : String) : IO (Option String) := do
  try
    return some (← IO.FS.readFile path)
  catch _ =>
    return none

/-- Loads the settings; a file that cannot be read is written with the defaults. -/
def loadSettings (named : Option String) : IO Settings := do
  let path ← settingsPath named
  match ← readFile? path with
  | none =>
    let defaults : Settings := {}
    IO.FS.writeFile path (String.ofList defaults.print)
    return defaults
  | some text =>
    match Settings.read? text.toList with
    | some settings => return settings
    | none => fail Settings.unreadableMessage

/-- Launches a session on the files that the command line names. -/
def launch (settings : Settings) (launching : Launching) : IO Session := do
  match Breakpoint.readAll launching.breakpoints with
  | .error error => fail error.message
  | .ok breakpoints =>
    let source ← IO.FS.readFile launching.source
    let recording ← IO.FS.readFile launching.recording
    match Session.launch settings.engine source recording breakpoints with
    | .error error => fail error.message
    | .ok session => return session

/-- Takes lines at a prompt until one of them quits. -/
partial def debug (input : IO.FS.Stream) (prompt : Prompt) : IO Unit := do
  write Prompt.invitation
  match ← readLine? input with
  | none => write "\n"
  | some line =>
    let request := Prompt.Request.ofLine line
    let exchange := prompt.execute request
    write (Prompt.linesText exchange.shown)
    if request ≠ .quit then
      debug input exchange.prompt

/-- Answers commands, one a line. -/
partial def converse (input : IO.FS.Stream) (session : Session) : IO Unit := do
  match ← readLine? input with
  | none => return
  | some line =>
    let turns := Conversation.turns session [line]
    for turn in turns do
      write (turn.answer.toJson.print ++ "\n")
    converse input (Conversation.sessionAfter session turns)

/-- Answers remote calls, one a line. -/
partial def serve (input : IO.FS.Stream) (session : Session) : IO Unit := do
  match ← readLine? input with
  | none => return
  | some line =>
    match (Json.read? line).bind Rpc.Request.ofJson? with
    | none => serve input session
    | some request =>
      let turn := Rpc.respond session request
      write (turn.answer.toJson.print ++ "\n")
      serve input turn.session

def run (options : Options) : IO Unit := do
  let settings ← loadSettings options.settings
  let input ← IO.getStdin
  match options.task with
  | .json => converse input (Session.new settings.engine)
  | .debug launching =>
    let session ← launch settings launching
    write (Prompt.linesText (Prompt.banner session :: Prompt.position session))
    debug input { session }
  | .serve launching => serve input (← launch settings launching)

end Playback.CommandLine

def main (arguments : List String) : IO UInt32 := do
  match Playback.Options.read? arguments with
  | none =>
    IO.eprintln Playback.Options.usage
    return 2
  | some options =>
    try
      Playback.CommandLine.run options
      return 0
    catch error =>
      IO.eprintln (toString error)
      return 1
