/-!
# Arguments of the command line

The arguments name what is to be done, the files it is done with, and options, which may stand
anywhere among the other words.
-/

namespace Playback

/-- The files of a recorded execution, and the breakpoints to start with. -/
structure Launching where
  source : String
  recording : String
  breakpoints : List String
  deriving DecidableEq, Repr

/-- What is to be done. -/
inductive Task
  /-- To step through a recorded execution at a prompt. -/
  | debug (launching : Launching)
  /-- To answer commands, one a line. -/
  | json
  /-- To answer remote calls about a recorded execution, one a line. -/
  | serve (launching : Launching)
  deriving DecidableEq, Repr

/-- The arguments of a command line. -/
structure Options where
  /-- The settings file, if it is not the one in the home directory. -/
  settings : Option String
  task : Task
  deriving DecidableEq, Repr

namespace Options

/-- The arguments sorted into options and other words. -/
structure Sorted where
  settings : Option String := none
  breakpoints : List String := []
  words : List String := []
  deriving DecidableEq, Repr

/-- Sorts arguments; an option is refused when it is unknown or has no value. -/
def sort? : List String → Option Sorted
  | [] => some {}
  | "--config" :: path :: rest =>
    (sort? rest).map fun sorted => { sorted with settings := some (sorted.settings.getD path) }
  | "-b" :: line :: rest => (sort? rest).map fun sorted =>
    { sorted with breakpoints := line :: sorted.breakpoints }
  | "--break" :: line :: rest => (sort? rest).map fun sorted =>
    { sorted with breakpoints := line :: sorted.breakpoints }
  | word :: rest =>
    if word.startsWith "-" then
      none
    else
      (sort? rest).map fun sorted => { sorted with words := word :: sorted.words }

def Sorted.task? (sorted : Sorted) : Option Task :=
  match sorted.words with
  | ["debug", source, recording] =>
    some (.debug { source, recording, breakpoints := sorted.breakpoints })
  | ["serve", source, recording] =>
    some (.serve { source, recording, breakpoints := sorted.breakpoints })
  | ["json"] => if sorted.breakpoints.isEmpty then some .json else none
  | _ => none

def read? (arguments : List String) : Option Options := do
  let sorted ← sort? arguments
  return { settings := sorted.settings, task := ← sorted.task? }

def usage : String :=
  "Usage: retrace [--config FILE] debug SOURCE TRACE [-b LINE]...\n" ++
    "       retrace [--config FILE] json\n" ++
    "       retrace [--config FILE] serve SOURCE TRACE [-b LINE]..."

end Options

end Playback
