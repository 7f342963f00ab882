import Playback.Command.Basic
import Playback.Json.Value

/-!
# Records as JSON

The JSON form of everything that a session shows.  The members of every object come in
ascending order of their keys, and what is absent is written as `null`.
-/

namespace Playback

open Json (Value)

def Scope.toJson (scope : Scope) : Value :=
  .object
    [("indent", .natural scope.indent), ("isScopeStart", .boolean scope.opensBlock),
      ("scopeType", .text scope.kind.name)]

def Frame.toJson (frame : Frame) : Value :=
  .object
    [("depth", .natural frame.depth), ("indent", .natural frame.indent),
      ("line", .natural frame.line), ("scopeType", .text frame.kind.name)]

def Event.toJson (event : Event) : Value :=
  .object
    [("index", .natural event.index), ("kind", .text event.kind.name),
      ("line", .natural event.line)]

def Report.toJson (report : Report) : Value :=
  .object
    [("currentSourceLine", .optional .text report.text), ("depth", .optional .natural report.depth),
      ("indent", .optional .natural report.indent), ("index", .natural report.index),
      ("nextLine", .optional .natural report.line),
      ("scopeType", .optional (fun kind => .text kind.name) report.kind),
      ("status", .text report.outcome.name)]

def Snapshot.toJson (snapshot : Snapshot) : Value :=
  .object
    [("breakpoints", .naturals snapshot.breakpoints),
      ("canStepBack", .boolean snapshot.canStepBack),
      ("currentDepth", .natural snapshot.depth), ("currentIndent", .natural snapshot.indent),
      ("currentIndex", .natural snapshot.index),
      ("currentLine", .optional .natural snapshot.line),
      ("currentScopeType", .text snapshot.kind.name),
      ("executionHistory", .naturals snapshot.history), ("isActive", .boolean snapshot.isActive),
      ("status", .text snapshot.status.name), ("totalSteps", .natural snapshot.totalSteps)]

def Reply.toJson : Reply → Value
  | .report answer => answer.toJson
  | .added isNew breakpoints =>
    .object [("added", .boolean isNew), ("breakpoints", .naturals breakpoints)]
  | .removed wasSet breakpoints =>
    .object [("breakpoints", .naturals breakpoints), ("removed", .boolean wasSet)]
  | .toggled isSet breakpoints =>
    .object [("breakpoints", .naturals breakpoints), ("enabled", .boolean isSet)]
  | .cleared count breakpoints =>
    .object [("breakpoints", .naturals breakpoints), ("cleared", .natural count)]
  | .state shown => shown.toJson
  | .scope judgement => judgement.toJson

end Playback
