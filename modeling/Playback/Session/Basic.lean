import Playback.Recording.Depth
import Playback.Recording.Occurrence
import Playback.Session.Error
import Playback.Session.Event
import Playback.Session.Report
import Playback.Settings.Engine
import Playback.Stepping.Landing
import Playback.Text.Lines

/-!
# Sessions

A session is one debugging of one recording: the source, the recording and what follows
from them, and on top of that a position, a stack of visits and a set of breakpoints.  Every
request is a function from a session to its answer, the session afterwards and the event, if
any, that announces the change.  Who listens to the events is no part of a session.

A visit is remembered by its line and rank and found again by them, so the stack
of visits stays meaningful whatever happens to indices.
-/

namespace Playback

/-- A position that a session stood on: its line and how many earlier positions have that line. -/
structure Visit where
  line : Nat
  rank : Nat
  deriving DecidableEq, Repr

/-- One debugging of one recording. -/
structure Session where
  settings : EngineSettings := {}
  source : List String := []
  scopes : ScopeTable := {}
  trace : List Nat := []
  frames : List Frame := []
  depths : List Nat := []
  status : Status := .uninitialized
  index : Nat := 0
  /-- The visits that can be gone back to, latest first; the first one is the current position. -/
  history : List Visit := []
  breakpoints : LineSet := .empty
  deriving DecidableEq, Repr

/-- What a request comes to. -/
structure Turn (α : Type) where
  answer : α
  session : Session
  event : Option Event := none

def Turn.map {α β : Type} (f : α → β) (turn : Turn α) : Turn β :=
  { answer := f turn.answer, session := turn.session, event := turn.event }

/-- The turn of a request that may be refused, as far as it was not. -/
def Turn.accepted {ε α : Type} (turn : Turn (Except ε α)) : Except ε (Turn α) :=
  turn.answer.map fun answer => turn.map fun _ => answer

/-- The turn with a line taken out of the breakpoints afterwards. -/
def Turn.erasing {α : Type} (turn : Turn α) (line : Nat) : Turn α :=
  { turn with
    session :=
      { turn.session with breakpoints := turn.session.breakpoints.erase line } }

namespace Session

/-! ## Views -/

def sourceLine? (session : Session) : (line : Nat) → Option String
  | 0 => none
  | line + 1 => session.source[line]?

/-- Whether the source has a line, counted from one. -/
def hasLine (session : Session) (line : Nat) : Bool :=
  1 ≤ line && line ≤ session.source.length

def frame? (session : Session) : Option Frame :=
  session.frames[session.index]?

def lineHere? (session : Session) : Option Nat :=
  session.trace[session.index]?

/-- The current line, once the session was started. -/
def currentLine? (session : Session) : Option Nat :=
  if session.status = .uninitialized then none else session.lineHere?

def scopeOf (session : Session) (line : Nat) : Scope :=
  session.scopes.get line

/-- The report on a session that stands on `line` or, without one, cannot be moved. -/
def report (session : Session) (line : Option Nat) (outcome : Outcome) : Report :=
  let text := line.bind session.sourceLine?
  let scope := if text.isSome then line.map session.scopeOf else none
  { line, outcome, text
    depth := session.frame?.map (·.depth)
    indent := scope.map (·.indent)
    kind := scope.map (·.kind)
    index := session.index }

def snapshot (session : Session) : Snapshot :=
  let frame := session.frame?
  { status := session.status
    isActive := session.status = .active
    line := session.currentLine?
    index := session.index
    breakpoints := session.breakpoints.toList
    history := (session.history.map (·.line)).reverse
    totalSteps := session.trace.length
    depth := (frame.map (·.depth)).getD 0
    indent := (frame.map (·.indent)).getD 0
    kind := (frame.map (·.kind)).getD .plain
    canStepBack := session.status = .active && 1 < session.history.length }

def course (session : Session) : Course :=
  { lines := session.trace, depths := session.depths, breakpoints := session.breakpoints }

def announce (session : Session) (kind : EventKind) : Event :=
  { kind, line := session.lineHere?.getD 0, index := session.index }

/-! ## Turns -/

/-- The turn of a request that is refused; it leaves the session as the request found it. -/
def refuse {α : Type} (session : Session) (error : SessionError) :
    Turn (Except SessionError α) :=
  { answer := .error error, session }

def refuseLine {α : Type} (session : Session) (line : Nat) : Turn (Except SessionError α) :=
  session.refuse (.invalidLine line session.source.length)

def idle (session : Session) : Turn Report :=
  { answer := session.report none .inactive, session }

/-- The turn of a session that stays where it is and can be moved on. -/
def stay (session : Session) : Turn Report :=
  { answer := session.report session.lineHere? .active, session }

/-- The turn of a session that runs past the end. -/
def finish (session : Session) : Turn Report :=
  let session := { session with status := .complete }
  { answer := session.report none .complete, session, event := session.announce .complete }

/-- The turn of a session whose recording contradicts its history. -/
def breakDown (session : Session) : Turn Report :=
  let session := { session with status := .error }
  { answer := session.report none .error, session }

def firstMissing? (sourceLines : Nat) (lines : List Nat) : Option Nat :=
  lines.find? fun line => line == 0 || sourceLines < line

def new (settings : EngineSettings) : Session :=
  { settings }

/--
Starts afresh on a recording.  Everything is looked at before anything is changed, and
of the earlier session only the settings are kept.
-/
def restart (session : Session) (source : String) (recording : Recording)
    (breakpoints : List Nat) : Turn (Except SessionError Report) :=
  match recording.lines with
  | [] => session.refuse .emptyTrace
  | first :: rest =>
    let source := (Text.lines source.toList).map String.ofList
    match firstMissing? source.length breakpoints with
    | some line => session.refuse (.invalidLine line source.length)
    | none =>
      let scopes := ScopeTable.ofLines session.settings.tabWidth source
      match recording.frames scopes with
      | .error mismatch => session.refuse (.depthMismatch mismatch)
      | .ok frames =>
        let started :=
          { session with
            source, scopes
            trace := first :: rest
            frames
            depths := frames.map (·.depth)
            status := .active
            index := 0
            history := [{ line := first, rank := 0 }]
            breakpoints := LineSet.ofList breakpoints }
        { answer := .ok (started.report (some first) .active)
          session := started
          event := started.announce .start }

/-- Starts afresh on a recording, for those who go on only with a started session. -/
def start (session : Session) (source : String) (recording : Recording)
    (breakpoints : List Nat) : Except SessionError (Turn Report) :=
  (session.restart source recording breakpoints).accepted

/-- The latest visits that the settings allow to keep, however visits are remembered. -/
def keepVisits {α : Type} (settings : EngineSettings) (visits : List α) : List α :=
  if settings.maxHistory = 0 then visits else visits.take settings.maxHistory

/-- The kind of event that announces a forward move onto `line`. -/
def moveKind (session : Session) (action : Action) (line : Nat) : EventKind :=
  if action = .continue && session.breakpoints.contains line then .breakpoint else .step

def advance (session : Session) (action : Action) (target : Nat) : Turn Report :=
  let line := session.trace[target]?.getD 0
  let visit : Visit := { line, rank := Recording.rankAt session.trace line target }
  let moved :=
    { session with
      index := target
      history := keepVisits session.settings (visit :: session.history) }
  { answer := moved.report (some line) .active
    session := moved
    event := moved.announce (moved.moveKind action line) }

def perform (session : Session) (action : Action) : Turn Report :=
  if session.status = .active then
    match session.course.land action session.index with
    | .moved target => session.advance action target
    | .pastEnd => session.finish
    | .topLevel =>
      match session.settings.topLevelStepOut with
      | .stay => session.stay
      | .complete => session.finish
  else
    session.idle

/-- Goes back to the previous visit; without one, the session stays where it is. -/
def stepBack (session : Session) : Turn Report :=
  if session.status = .active then
    match session.history with
    | _ :: previous :: older =>
      let left := { session with history := previous :: older }
      match Recording.nth session.trace previous.line previous.rank with
      | .ok index =>
        let moved := { left with index }
        { answer := moved.report (some previous.line) .active
          session := moved
          event := some { kind := .stepBack, line := previous.line, index } }
      | .error _ => left.breakDown
    | _ => session.stay
  else
    session.idle

/-- Continues to a line or to a breakpoint before it. -/
def runToLine (session : Session) (target : Nat) : Turn (Except SessionError Report) :=
  if session.status = .active then
    if session.hasLine target then
      let turn :=
        { session with breakpoints := session.breakpoints.insert target }.perform .continue
      (if session.breakpoints.contains target then turn else turn.erasing target).map .ok
    else
      session.refuseLine target
  else
    session.idle.map .ok

def addBreakpoint (session : Session) (line : Nat) : Turn (Except SessionError Bool) :=
  if session.hasLine line then
    { answer := .ok (!session.breakpoints.contains line)
      session := { session with breakpoints := session.breakpoints.insert line } }
  else
    session.refuseLine line

def removeBreakpoint (session : Session) (line : Nat) : Turn (Except SessionError Bool) :=
  if session.hasLine line then
    { answer := .ok (session.breakpoints.contains line)
      session := { session with breakpoints := session.breakpoints.erase line } }
  else
    session.refuseLine line

/-- Clears a breakpoint that is set, sets one that is not, and tells whether it is set now. -/
def toggleBreakpoint (session : Session) (line : Nat) : Turn (Except SessionError Bool) :=
  let removal := session.removeBreakpoint line
  match removal.answer with
  | .ok true => { removal with answer := .ok false }
  | .ok false => removal.session.addBreakpoint line
  | .error refused => { removal with answer := .error refused }

def clearBreakpoints (session : Session) : Turn Nat :=
  { answer := session.breakpoints.size
    session := { session with breakpoints := .empty } }

end Session

end Playback
