import Playback.Proofs.Session.Reports

/-!
# Remembering indices instead of ranks

A session remembers a visit by its line and its rank and looks the index up when it goes
back.  The plain way is to remember the index itself.  This module defines sessions
that do so and are otherwise the same, and shows that nobody who talks to a session can tell
which of the two it is: the answers, the events and the snapshots of every run are equal.

The two are tied by a function.  Ranking an indexed session replaces the index of every visit
by its rank, and as long as each visit names a position with its line, every command does the same
before and after the ranking.
-/

namespace Playback

/-- A position that an indexed session stood on: its line and its index. -/
structure IndexedVisit where
  line : Nat
  index : Nat
  deriving DecidableEq, Repr

/-- A session that remembers its visits by index.  The history of the base is never looked at. -/
structure IndexedSession where
  base : Session
  /-- The visits that can be gone back to, latest first. -/
  visits : List IndexedVisit := []
  deriving DecidableEq, Repr

structure IndexedTurn (α : Type) where
  answer : α
  session : IndexedSession
  event : Option Event := none

def IndexedTurn.map {α β : Type} (f : α → β) (turn : IndexedTurn α) : IndexedTurn β :=
  { answer := f turn.answer, session := turn.session, event := turn.event }

/-- The turn with a line taken out of the breakpoints afterwards. -/
def IndexedTurn.erasing {α : Type} (turn : IndexedTurn α) (line : Nat) : IndexedTurn α :=
  let base := turn.session.base
  { turn with
    session :=
      { turn.session with base := base.withBreakpoints (base.breakpoints.erase line) } }

namespace IndexedSession

def new (settings : EngineSettings) : IndexedSession :=
  { base := Session.new settings }

/-- The turn of a request that has nothing to do with visits. -/
def keeping {α : Type} (session : IndexedSession) (turn : Turn α) : IndexedTurn α :=
  { answer := turn.answer
    session := { session with base := turn.session }
    event := turn.event }

def snapshot (session : IndexedSession) : Snapshot :=
  { session.base.snapshot with
    history := (session.visits.map (·.line)).reverse
    canStepBack := session.base.status = .active && 1 < session.visits.length }

def restart (session : IndexedSession) (source : String) (recording : Recording)
    (breakpoints : List Nat) : IndexedTurn (Except SessionError Report) :=
  let turn := session.base.restart source recording breakpoints
  match turn.answer with
  | .error _ => session.keeping turn
  | .ok _ =>
    { answer := turn.answer
      session :=
        { base := turn.session
          visits := [{ line := recording.lines.headD 0, index := 0 }] }
      event := turn.event }

def advance (session : IndexedSession) (action : Action) (target : Nat) :
    IndexedTurn Report :=
  let line := session.base.trace[target]?.getD 0
  let moved := { session.base with index := target }
  { answer := moved.report (some line) .active
    session :=
      { base := moved
        visits :=
          Session.keepVisits moved.settings ({ line, index := target } :: session.visits) }
    event := moved.announce (moved.moveKind action line) }

def perform (session : IndexedSession) (action : Action) : IndexedTurn Report :=
  if session.base.status = .active then
    match session.base.course.land action session.base.index with
    | .moved target => session.advance action target
    | .pastEnd => session.keeping session.base.finish
    | .topLevel =>
      match session.base.settings.topLevelStepOut with
      | .stay => session.keeping session.base.stay
      | .complete => session.keeping session.base.finish
  else
    session.keeping session.base.idle

/-- Goes back to the index of the previous visit. -/
def stepBack (session : IndexedSession) : IndexedTurn Report :=
  if session.base.status = .active then
    match session.visits with
    | _ :: previous :: older =>
      let moved := { session.base with index := previous.index }
      { answer := moved.report (some previous.line) .active
        session := { base := moved, visits := previous :: older }
        event := some
          { kind := .stepBack, line := previous.line, index := previous.index } }
    | _ => session.keeping session.base.stay
  else
    session.keeping session.base.idle

/-- Continues to a line or to a breakpoint before it. -/
def runToLine (session : IndexedSession) (target : Nat) :
    IndexedTurn (Except SessionError Report) :=
  let breakpoints := session.base.breakpoints
  if session.base.status = .active then
    if session.base.hasLine target then
      let marked := session.base.withBreakpoints (breakpoints.insert target)
      let turn := { session with base := marked }.perform .continue
      (if breakpoints.contains target then turn else turn.erasing target).map .ok
    else
      session.keeping (session.base.refuseLine target)
  else
    session.keeping (session.base.idle.map .ok)

def run (session : IndexedSession) : Command → IndexedTurn (Except SessionError Reply)
  | .start source trace breakpoints depths =>
    (session.restart source { lines := trace, depths } breakpoints).map (·.map .report)
  | .forward action => (session.perform action).map fun answer => .ok (.report answer)
  | .stepBack => session.stepBack.map fun answer => .ok (.report answer)
  | .runToLine line => (session.runToLine line).map (·.map .report)
  | .getState => { answer := .ok (.state session.snapshot), session }
  | command => session.keeping (command.run session.base)

def turns (session : IndexedSession) :
    List Command → List (IndexedTurn (Except SessionError Reply))
  | [] => []
  | command :: rest =>
    let turn := session.run command
    turn :: turn.session.turns rest

end IndexedSession

namespace Session

/-! ## Requests that have nothing to do with visits -/

/-- The session with other visits. -/
def withHistory (session : Session) (history : List Visit) : Session :=
  { session with history }

/-- A request that neither sees nor changes the visits, and leaves the recording as it is. -/
structure Blind {α : Type} (request : Session → Turn α) : Prop where
  history : ∀ session history,
    request (session.withHistory history) =
      { request session with session := (request session).session.withHistory history }
  trace : ∀ session, (request session).session.trace = session.trace

theorem Blind.map {α β : Type} {request : Session → Turn α} (blind : Blind request)
    (f : α → β) : Blind fun session => (request session).map f where
  history := by
    intro session history
    rw [blind.history]
    rfl
  trace := blind.trace

theorem blind_idle : Blind idle :=
  ⟨fun _ _ => rfl, fun _ => rfl⟩

theorem blind_stay : Blind stay :=
  ⟨fun _ _ => rfl, fun _ => rfl⟩

theorem blind_finish : Blind finish :=
  ⟨fun _ _ => rfl, fun _ => rfl⟩

theorem blind_refuseLine {α : Type} (line : Nat) :
    Blind fun session => (session.refuseLine line : Turn (Except SessionError α)) :=
  ⟨fun _ _ => rfl, fun _ => rfl⟩

/-- A request stays blind when it is refused at lines that the source lacks. -/
theorem Blind.inSource {α : Type} {request : Session → Turn (Except SessionError α)}
    (blind : Blind request) (line : Nat) :
    Blind fun session =>
      if session.hasLine line then request session else session.refuseLine line where
  history := by
    intro session history
    have same : (session.withHistory history).hasLine line = session.hasLine line := rfl
    rw [same]
    split
    · exact blind.history session history
    · exact (blind_refuseLine line).history session history
  trace := by
    intro session
    split
    · exact blind.trace session
    · rfl

theorem blind_addBreakpoint (line : Nat) : Blind (addBreakpoint · line) :=
  Blind.inSource ⟨fun _ _ => rfl, fun _ => rfl⟩ line

theorem blind_removeBreakpoint (line : Nat) : Blind (removeBreakpoint · line) :=
  Blind.inSource ⟨fun _ _ => rfl, fun _ => rfl⟩ line

/-- The breakpoints told in a reply are those of the turn, and blind turns have the same. -/
theorem Blind.breakpointTurn {request : Session → Turn (Except SessionError Bool)}
    (blind : Blind request) (reply : Bool → List Nat → Reply) :
    Blind fun session => Playback.breakpointTurn reply (request session) where
  history := by
    intro session history
    rw [blind.history]
    rfl
  trace := blind.trace

theorem blind_clearBreakpoints : Blind (Command.run · .clearBreakpoints) :=
  ⟨fun _ _ => rfl, fun _ => rfl⟩

theorem blind_getScopeInfo (line : Nat) : Blind (Command.run · (.getScopeInfo line)) :=
  ⟨fun _ _ => rfl, fun _ => rfl⟩

/-- A flip is a removal and, where nothing was removed, an addition; both are blind. -/
theorem blind_toggleBreakpoint (line : Nat) : Blind (toggleBreakpoint · line) where
  history := by
    intro session history
    rw [toggleBreakpoint, toggleBreakpoint, (blind_removeBreakpoint line).history]
    cases (session.removeBreakpoint line).answer with
    | error refused => rfl
    | ok wasSet =>
        cases wasSet with
        | true => rfl
        | false => exact (blind_addBreakpoint line).history _ history
  trace := by
    intro session
    have removed := (blind_removeBreakpoint line).trace session
    rw [toggleBreakpoint]
    split
    · exact removed
    · exact ((blind_addBreakpoint line).trace _).trans removed
    · exact removed

end Session

namespace IndexedSession

/-! ## Ranking -/

/-- The session that remembers the same visits by rank. -/
def ranked (session : IndexedSession) : Session :=
  session.base.withHistory <| session.visits.map fun visit =>
    { line := visit.line
      rank := Recording.rankAt session.base.trace visit.line visit.index }

/-- Every visit names a position that holds its line. -/
def Faithful (session : IndexedSession) : Prop :=
  ∀ visit ∈ session.visits, session.base.trace[visit.index]? = some visit.line

/--
An indexed turn that looks like a turn and leads to a session that, ranked, is the one the turn
leads to.
-/
structure Mirrors {α : Type} (indexed : IndexedTurn α) (turn : Turn α) : Prop where
  answer : indexed.answer = turn.answer
  event : indexed.event = turn.event
  session : indexed.session.ranked = turn.session
  faithful : indexed.session.Faithful

variable {session : IndexedSession}

theorem ranked_history (session : IndexedSession) :
    session.ranked.history =
      session.visits.map fun visit =>
        { line := visit.line
          rank := Recording.rankAt session.base.trace visit.line visit.index } :=
  rfl

@[simp]
theorem ranked_settings : session.ranked.settings = session.base.settings :=
  rfl

@[simp]
theorem ranked_status : session.ranked.status = session.base.status :=
  rfl

@[simp]
theorem ranked_index : session.ranked.index = session.base.index :=
  rfl

@[simp]
theorem ranked_breakpoints : session.ranked.breakpoints = session.base.breakpoints :=
  rfl

@[simp]
theorem ranked_course : session.ranked.course = session.base.course :=
  rfl

@[simp]
theorem ranked_hasLine (line : Nat) :
    session.ranked.hasLine line = session.base.hasLine line :=
  rfl

theorem Mirrors.map {α β : Type} {indexed : IndexedTurn α} {turn : Turn α}
    (mirrors : Mirrors indexed turn) (f : α → β) : Mirrors (indexed.map f) (turn.map f) where
  answer := congrArg f mirrors.answer
  event := mirrors.event
  session := mirrors.session
  faithful := mirrors.faithful

/-- A snapshot shows only the lines of the visits and whether there are several. -/
theorem snapshot_ranked (session : IndexedSession) :
    session.ranked.snapshot = session.snapshot := by
  have lines : session.ranked.history.map (·.line) = session.visits.map (·.line) := by
    simp [ranked, Session.withHistory]
  have length : session.ranked.history.length = session.visits.length := by
    simp [ranked, Session.withHistory]
  rw [Session.snapshot, lines, length]
  rfl

theorem mirrors_keeping {α : Type} {request : Session → Turn α}
    (blind : Session.Blind request) (faithful : session.Faithful) :
    Mirrors (session.keeping (request session.base)) (request session.ranked) := by
  have trace := blind.trace session.base
  rw [ranked, blind.history]
  refine ⟨rfl, rfl, ?_, ?_⟩
  · rw [keeping, ranked, trace]
  · intro visit member
    rw [keeping, trace]
    exact faithful visit member

/-- A start looks at no visit and remembers one, the position it starts from. -/
theorem mirrors_restart (faithful : session.Faithful) (source : String)
    (recording : Recording) (breakpoints : List Nat) :
    Mirrors (session.restart source recording breakpoints)
      (session.ranked.restart source recording breakpoints) := by
  have same : session.base.settings = session.ranked.settings := rfl
  rcases Session.restart_of_settings same source recording breakpoints with
    ⟨refused, base, ranked⟩ | ⟨report, accepted, equal⟩
  · rw [restart, base, ranked]
    exact ⟨rfl, rfl, rfl, faithful⟩
  · rcases session.base.restart_cases source recording breakpoints with
      ⟨refused, base⟩ | ⟨frames, nonempty, _, _, base⟩
    · rw [base] at accepted
      cases accepted
    · rw [restart, equal, base]
      refine ⟨rfl, rfl, ?_, ?_⟩
      · simp [ranked, Session.withHistory, Session.startedOn, Recording.rankAt_zero]
      · intro visit member
        obtain rfl := List.mem_singleton.mp member
        cases lines : recording.lines with
        | nil => exact (nonempty lines).elim
        | cons first rest => simp [Session.startedOn]

/-- A movement adds a visit to each session, and the rank of the one is that of the other. -/
theorem mirrors_advance {target : Nat} (faithful : session.Faithful) (action : Action)
    (inside : target < session.base.trace.length) :
    Mirrors (session.advance action target) (session.ranked.advance action target) := by
  refine ⟨rfl, rfl, ?_, ?_⟩
  · rw [ranked, advance, Session.map_keepVisits]
    rfl
  · intro visit member
    rcases List.mem_cons.mp ((Session.keepVisits_sublist _ _).subset member) with rfl | older
    · simp [advance, List.getElem?_eq_getElem inside]
    · exact faithful visit older

theorem mirrors_perform (faithful : session.Faithful)
    (aligned : session.base.status = .active →
      session.base.depths.length = session.base.trace.length)
    (action : Action) :
    Mirrors (session.perform action) (session.ranked.perform action) := by
  have finished : Mirrors (session.keeping session.base.finish) session.ranked.finish :=
    mirrors_keeping Session.blind_finish faithful
  rw [perform, Session.perform, ranked_status, ranked_course, ranked_index, ranked_settings]
  split
  case isTrue active =>
    cases lands : session.base.course.land action session.base.index with
    | moved target =>
        exact mirrors_advance faithful action (Course.land_inside (aligned active) lands)
    | pastEnd => exact finished
    | topLevel =>
        cases session.base.settings.topLevelStepOut with
        | stay => exact mirrors_keeping Session.blind_stay faithful
        | complete => exact finished
  case isFalse => exact mirrors_keeping Session.blind_idle faithful

/-- What a session finds by its rank is where the indexed session goes back to. -/
theorem mirrors_stepBack (faithful : session.Faithful) :
    Mirrors session.stepBack session.ranked.stepBack := by
  by_cases active : session.base.status = .active
  · have activeRanked : session.ranked.status = .active := active
    rw [stepBack, if_pos active]
    split
    case h_1 current previous older visits =>
      have held : session.base.trace[previous.index]? = some previous.line :=
        faithful previous (by simp [visits])
      have visited := session.ranked_history
      rw [visits, List.map_cons, List.map_cons] at visited
      rw [Session.stepBack_eq_of_found activeRanked visited (Recording.nth_rankAt held)]
      refine ⟨rfl, rfl, rfl, ?_⟩
      intro visit member
      exact faithful visit (visits ▸ List.mem_cons_of_mem current member)
    case h_2 single =>
      have short : session.ranked.history.length ≤ 1 := by
        rw [ranked_history, List.length_map]
        rcases visits : session.visits with _ | ⟨current, _ | ⟨previous, older⟩⟩
        · exact Nat.zero_le _
        · exact Nat.le_refl _
        · exact (single current previous older visits).elim
      rw [Session.stepBack_eq_stay activeRanked short]
      exact mirrors_keeping Session.blind_stay faithful
  · rw [stepBack, Session.stepBack, ranked_status, if_neg active, if_neg active]
    exact mirrors_keeping Session.blind_idle faithful

theorem Mirrors.erasing {α : Type} {indexed : IndexedTurn α} {turn : Turn α}
    (mirrors : Mirrors indexed turn) (line : Nat) :
    Mirrors (indexed.erasing line) (turn.erasing line) where
  answer := mirrors.answer
  event := mirrors.event
  session := by
    rw [Turn.erasing, ← mirrors.session]
    rfl
  faithful := mirrors.faithful

theorem mirrors_runToLine (faithful : session.Faithful)
    (aligned : session.base.status = .active →
      session.base.depths.length = session.base.trace.length)
    (target : Nat) :
    Mirrors (session.runToLine target) (session.ranked.runToLine target) := by
  let marked : IndexedSession :=
    { session with
      base := session.base.withBreakpoints (session.base.breakpoints.insert target) }
  have mirrors : Mirrors (marked.perform .continue) (marked.ranked.perform .continue) :=
    mirrors_perform (show marked.Faithful from faithful) aligned .continue
  rw [runToLine, Session.runToLine, ranked_status, ranked_breakpoints, ranked_hasLine]
  dsimp only
  split
  · split
    · apply Mirrors.map
      split
      · exact mirrors
      · exact mirrors.erasing target
    · exact mirrors_keeping (Session.blind_refuseLine target) faithful
  · exact mirrors_keeping (Session.blind_idle.map Except.ok) faithful

/-- Every command does the same to an indexed session and to that session ranked. -/
theorem mirrors_run (faithful : session.Faithful) (consistent : session.ranked.Consistent)
    (command : Command) : Mirrors (session.run command) (command.run session.ranked) := by
  have aligned : session.base.status = .active →
      session.base.depths.length = session.base.trace.length :=
    fun active => (consistent.loaded_of_active active).length_depths
  cases command with
  | start source trace breakpoints depths =>
      exact (mirrors_restart faithful source _ breakpoints).map (Except.map Reply.report)
  | forward action =>
      exact (mirrors_perform faithful aligned action).map fun answer =>
        Except.ok (Reply.report answer)
  | stepBack => exact (mirrors_stepBack faithful).map fun answer =>
        Except.ok (Reply.report answer)
  | runToLine line =>
      exact (mirrors_runToLine faithful aligned line).map (Except.map Reply.report)
  | addBreakpoint line =>
      exact mirrors_keeping ((Session.blind_addBreakpoint line).breakpointTurn .added) faithful
  | removeBreakpoint line =>
      exact mirrors_keeping ((Session.blind_removeBreakpoint line).breakpointTurn .removed) faithful
  | toggleBreakpoint line =>
      exact mirrors_keeping ((Session.blind_toggleBreakpoint line).breakpointTurn .toggled) faithful
  | clearBreakpoints => exact mirrors_keeping Session.blind_clearBreakpoints faithful
  | getState =>
      exact ⟨by rw [Command.run, snapshot_ranked]; rfl, rfl, rfl, faithful⟩
  | getScopeInfo line => exact mirrors_keeping (Session.blind_getScopeInfo line) faithful

/-- A run of an indexed session looks like the run of that session ranked. -/
theorem map_turns_ranked (faithful : session.Faithful)
    (consistent : session.ranked.Consistent) (commands : List Command) :
    (session.turns commands).map
        (fun turn => (turn.answer, turn.event, turn.session.snapshot)) =
      (session.ranked.turns commands).map
        fun turn => (turn.answer, turn.event, turn.session.snapshot) := by
  induction commands generalizing session with
  | nil => rfl
  | cons command rest induction =>
      have mirrors := mirrors_run faithful consistent command
      have next : (session.run command).session.ranked.Consistent := by
        rw [mirrors.session]
        exact (session.ranked.run_change command).consistent consistent
      have later := induction mirrors.faithful next
      rw [mirrors.session] at later
      rw [turns, Session.turns, List.map_cons, List.map_cons, later, mirrors.answer,
        mirrors.event, ← snapshot_ranked, mirrors.session]

/--
Whatever commands a new session is given, refused ones included, its answers, events and snapshots
are those of the session that remembers indices.  No command is answered by the report of an
error, and no error is reached.
-/
theorem turns_agree (settings : EngineSettings) (commands : List Command) :
    ((Session.new settings).turns commands).map
        (fun turn => (turn.answer, turn.event, turn.session.snapshot)) =
      ((IndexedSession.new settings).turns commands).map
        (fun turn => (turn.answer, turn.event, turn.session.snapshot)) ∧
    ∀ turn ∈ (Session.new settings).turns commands,
      turn.session.status ≠ .error ∧
        ∀ report, turn.answer = .ok (.report report) → report.outcome ≠ .error := by
  have consistent := Session.consistent_new settings
  have faithful : (IndexedSession.new settings).Faithful :=
    fun _ member => (List.not_mem_nil member).elim
  exact ⟨(map_turns_ranked faithful consistent commands).symm,
    consistent.turns_ne_error commands⟩

end IndexedSession

end Playback
