import Playback.Settings.Basic
import Playback.Text.Numeral
import Playback.Toml.Range
import Playback.Toml.Reader

/-!
# Settings files

Settings are kept in a TOML document with a section for the engine and one for the server.  A key
that is missing has its default, and keys that are unknown are passed over, as long as the numbers
under them are in range.  The document that is written names every setting, one a line.
-/

namespace Playback.Settings

open Toml (Key Members Value)

/-- A line of a settings file. -/
inductive Line
  | heading (name : String)
  | entry (key : String) (value : List Char)
  | blank
  deriving DecidableEq, Repr

def Line.text : Line → List Char
  | .heading name => '[' :: name.toList ++ [']', '\n']
  | .entry key value => key.toList ++ [' ', '=', ' '] ++ value ++ ['\n']
  | .blank => ['\n']

/-- A text without quotes, backslashes and control characters in quotes. -/
def quote (text : List Char) : List Char :=
  '"' :: text ++ ['"']

def lines (settings : Settings) : List Line :=
  [.heading "engine",
    .entry "tab_width" (Text.numeral settings.engine.tabWidth),
    .entry "top_level_step_out" (quote settings.engine.topLevelStepOut.name.toList),
    .entry "max_history" (Text.numeral settings.engine.maxHistory),
    .blank,
    .heading "server",
    .entry "host" (quote settings.server.host.print),
    .entry "port" (Text.numeral settings.server.port.toNat)]

def print (settings : Settings) : List Char :=
  settings.lines.flatMap Line.text

/-- The number up to a bound that a value is. -/
def numberUpTo? (bound : Nat) : Value → Option Nat
  | .integer literal =>
    match Toml.integer? literal with
    | some number => if 0 ≤ number && number ≤ (bound : Int) then some number.toNat else none
    | none => none
  | _ => none

/-- The choice that a value names, as a text or as the only key of a table. -/
def topLevelStepOut? : Value → Option TopLevelStepOut
  | .string name => TopLevelStepOut.ofName? (String.ofList name)
  | .table _ [(name, value)] =>
    if value.isEmpty then TopLevelStepOut.ofName? (String.ofList name) else none
  | _ => none

def host? : Value → Option Net.Address
  | .string text => Net.Address.read? text
  | _ => none

def port? (value : Value) : Option UInt16 :=
  (numberUpTo? 65535 value).map UInt16.ofNat

/-- The members of a table with known keys, if what is under the other keys can be passed over. -/
def knownMembers? (keys : List String) (members : Members) : Option Members :=
  if members.all fun member => keys.contains (String.ofList member.1) || member.2.inRange then
    some members
  else
    none

/--
The members of a section with known keys.  A list gives the values of the keys in their order, and
what it holds beyond them is not looked at; a date or a time gives none.
-/
def sectionMembers? (keys : List String) : Value → Option Members
  | .table _ members => knownMembers? keys members
  | .array items => some ((keys.map String.toList).zip items)
  | .tables earlier last =>
    some ((keys.map String.toList).zip ((earlier ++ [last]).map (.table .header)))
  | .moment _ => some []
  | _ => none

/-- The setting of a key: the default for a missing one. -/
def setting? {α : Type} (members : Members) (key : String) (default : α)
    (read : Value → Option α) : Option α :=
  match members.get? key.toList with
  | none => some default
  | some value => read value

def engine? (value : Value) : Option EngineSettings := do
  let members ← sectionMembers? ["tab_width", "top_level_step_out", "max_history"] value
  let defaults : EngineSettings := {}
  let tabWidth ← setting? members "tab_width" defaults.tabWidth (numberUpTo? Text.maxWord)
  let topLevelStepOut ←
    setting? members "top_level_step_out" defaults.topLevelStepOut topLevelStepOut?
  let maxHistory ← setting? members "max_history" defaults.maxHistory (numberUpTo? Text.maxWord)
  return { tabWidth, topLevelStepOut, maxHistory }

def server? (value : Value) : Option ServerSettings := do
  let members ← sectionMembers? ["host", "port"] value
  let defaults : ServerSettings := {}
  let host ← setting? members "host" defaults.host host?
  let port ← setting? members "port" defaults.port port?
  return { host, port }

def ofMembers? (members : Members) : Option Settings := do
  let members ← knownMembers? ["engine", "server"] members
  let defaults : Settings := {}
  let engine ← setting? members "engine" defaults.engine engine?
  let server ← setting? members "server" defaults.server server?
  return { engine, server }

def read? (text : List Char) : Option Settings :=
  (Toml.read? text).bind ofMembers?

/-- The wording for a settings file that cannot be read. -/
def unreadableMessage : String :=
  "Failed to parse config file as TOML"

end Playback.Settings
