import Playback.Proofs.Recording.Continuation
import Playback.Proofs.Session.Account
import Playback.Proofs.Stepping.Following

/-!
# Sessions do not look ahead

Whoever debugs a recording that was cut off sees what the whole recording would have shown.  The
main statement compares a session on a recording with one on a recording that continues it,
under the same commands: as long as the first does not run past its end, every answer, every event
and all that a session remembers are equal.  Only the number of steps that a snapshot tells
is different, as it has to be.

The session on the longer recording is the other one with lines and frames put behind.  Each
request is shown to do the same to both, and the run follows by induction.
-/

namespace Playback

/-- The reply with another number of steps in its snapshot, if it is one. -/
def Reply.withTotalSteps (totalSteps : Nat) : Reply → Reply
  | .state snapshot => .state { snapshot with totalSteps }
  | reply => reply

/-- The outcome that a reply reports, if it is a report. -/
def Reply.outcome? : Reply → Option Outcome
  | .report answer => some answer.outcome
  | _ => none

/-- Whether a turn is answered by the report that the session ran past the end. -/
def Turn.Completes (turn : Turn (Except SessionError Reply)) : Prop :=
  turn.answer.toOption.bind Reply.outcome? = some .complete

instance (turn : Turn (Except SessionError Reply)) : Decidable turn.Completes :=
  inferInstanceAs (Decidable (_ = _))

/-- A turn that looks like another one on a longer recording and leaves the same behind. -/
structure Turn.Foreshows (short long : Turn (Except SessionError Reply)) : Prop where
  answer :
    long.answer = short.answer.map (Reply.withTotalSteps long.session.trace.length)
  event : long.event = short.event
  index : long.session.index = short.session.index
  history : long.session.history = short.session.history
  breakpoints : long.session.breakpoints = short.session.breakpoints
  status : long.session.status = short.session.status

namespace Session

/-- The session as it would be on a recording that goes on with more lines and frames. -/
def followedBy (session : Session) (lines : List Nat) (frames : List Frame) : Session :=
  { session with
    trace := session.trace ++ lines
    frames := session.frames ++ frames
    depths := session.depths ++ frames.map (·.depth) }

end Session

/-- The turn as it would be on a recording that goes on. -/
def Turn.followedBy {α : Type} (turn : Turn α) (lines : List Nat) (frames : List Frame) :
    Turn α :=
  { turn with session := turn.session.followedBy lines frames }

namespace Session

variable {session : Session} {lines : List Nat} {frames : List Frame}

@[simp]
theorem settings_followedBy : (session.followedBy lines frames).settings = session.settings :=
  rfl

@[simp]
theorem status_followedBy : (session.followedBy lines frames).status = session.status :=
  rfl

@[simp]
theorem index_followedBy : (session.followedBy lines frames).index = session.index :=
  rfl

@[simp]
theorem hasLine_followedBy (line : Nat) :
    (session.followedBy lines frames).hasLine line = session.hasLine line :=
  rfl

theorem Loaded.frame?_followedBy (loaded : session.Loaded) :
    (session.followedBy lines frames).frame? = session.frame? := by
  have inside : session.index < session.frames.length := loaded.length_frames ▸ loaded.inside
  exact List.getElem?_append_left inside

theorem trace_followedBy {index : Nat} (inside : index < session.trace.length) :
    (session.followedBy lines frames).trace[index]? = session.trace[index]? :=
  List.getElem?_append_left inside

theorem Loaded.lineHere?_followedBy (loaded : session.Loaded) :
    (session.followedBy lines frames).lineHere? = session.lineHere? :=
  trace_followedBy loaded.inside

theorem Loaded.report_followedBy (loaded : session.Loaded) (line : Option Nat)
    (outcome : Outcome) :
    (session.followedBy lines frames).report line outcome = session.report line outcome := by
  rw [report, loaded.frame?_followedBy]
  rfl

theorem Loaded.announce_followedBy (loaded : session.Loaded) (kind : EventKind) :
    (session.followedBy lines frames).announce kind = session.announce kind := by
  rw [announce, loaded.lineHere?_followedBy]
  rfl

/-- Of a snapshot, only the number of steps tells how the recording goes on. -/
theorem Loaded.snapshot_followedBy (loaded : session.Loaded) :
    (session.followedBy lines frames).snapshot =
      { session.snapshot with
        totalSteps := (session.followedBy lines frames).trace.length } := by
  have line : (session.followedBy lines frames).currentLine? = session.currentLine? := by
    rw [currentLine?, loaded.lineHere?_followedBy]
    rfl
  rw [snapshot, loaded.frame?_followedBy, line]
  rfl

theorem Loaded.idle_followedBy (loaded : session.Loaded) :
    (session.followedBy lines frames).idle = session.idle.followedBy lines frames := by
  rw [idle, loaded.report_followedBy]
  rfl

theorem Loaded.stay_followedBy (loaded : session.Loaded) :
    (session.followedBy lines frames).stay = session.stay.followedBy lines frames := by
  rw [stay, loaded.report_followedBy, loaded.lineHere?_followedBy]
  rfl

/-! ## Commands and runs -/

/-- A movement inside the recording remembers the same visit where the recording goes on. -/
theorem movedTo_followedBy {target : Nat} (inside : target < session.trace.length) :
    (session.followedBy lines frames).movedTo target =
      (session.movedTo target).followedBy lines frames := by
  have visit : (session.followedBy lines frames).visitAt target = session.visitAt target := by
    rw [visitAt, trace_followedBy inside]
    exact congrArg (Visit.mk _) (Recording.rankAt_append (Nat.le_of_lt inside) lines)
  rw [movedTo, visit]
  rfl

theorem Loaded.advance_followedBy {target : Nat} (loaded : session.Loaded) (action : Action)
    (ahead : session.index < target) (inside : target < session.trace.length) :
    (session.followedBy lines frames).advance action target =
      (session.advance action target).followedBy lines frames := by
  have moved : (session.movedTo target).Loaded := loaded.moved ahead inside
  have advanced : ∀ session : Session, session.advance action target =
      { answer :=
          (session.movedTo target).report (some (session.trace[target]?.getD 0)) .active
        session := session.movedTo target
        event := some ((session.movedTo target).announce
          ((session.movedTo target).moveKind action (session.trace[target]?.getD 0))) } :=
    fun _ => rfl
  rw [advanced, advanced, movedTo_followedBy inside, trace_followedBy inside,
    moved.report_followedBy, moved.announce_followedBy]
  rfl

/-- A forward action that does not run past the end does the same where the recording goes on. -/
theorem Loaded.perform_followedBy (loaded : session.Loaded)
    (aligned : frames.length = lines.length) (action : Action)
    (goesOn : (session.perform action).answer.outcome ≠ .complete) :
    (session.followedBy lines frames).perform action =
      (session.perform action).followedBy lines frames := by
  have lands : session.course.land action session.index ≠ .pastEnd →
      (session.followedBy lines frames).course.land action session.index =
        session.course.land action session.index :=
    Course.land_append loaded.length_depths (by simpa using aligned) loaded.inside
  rw [perform, status_followedBy, index_followedBy, settings_followedBy]
  rcases session.perform_cases action with
    ⟨inactive, same⟩ | ⟨active, ⟨target, moves, same⟩ | ⟨_, same⟩ | ⟨top, stays, same⟩⟩
  · rw [same, if_neg inactive, loaded.idle_followedBy]
  · obtain ⟨ahead, inside⟩ := Course.land_moved loaded.length_depths loaded.inside moves
    have moves' := (lands (by rw [moves]; exact Landing.noConfusion)).trans moves
    rw [same, if_pos active, moves']
    exact loaded.advance_followedBy action ahead inside
  · rw [same] at goesOn
    exact (goesOn rfl).elim
  · have top' := (lands (by rw [top]; exact Landing.noConfusion)).trans top
    rw [same, if_pos active, top', stays]
    exact loaded.stay_followedBy

theorem Loaded.runToLine_followedBy (loaded : session.Loaded)
    (aligned : frames.length = lines.length) (target : Nat)
    (goesOn : ∀ report, (session.runToLine target).answer = .ok report →
      report.outcome ≠ .complete) :
    (session.followedBy lines frames).runToLine target =
      (session.runToLine target).followedBy lines frames := by
  by_cases active : session.status = .active
  · by_cases inSource : session.hasLine target = true
    · have marked : (session.withBreakpoints (session.breakpoints.insert target)).Loaded :=
        loaded.withBreakpoints _
      have performed := marked.perform_followedBy aligned .continue
        (goesOn _ (by rw [runToLine_eq active inSource]))
      have runs : (session.followedBy lines frames).runToLine target = _ :=
        runToLine_eq active inSource
      rw [runs, runToLine_eq active inSource]
      exact congrArg (fun turn : Turn Report =>
        ({ answer := .ok turn.answer
           session := turn.session.withBreakpoints session.breakpoints
           event := turn.event } : Turn (Except SessionError Report))) performed
    · rw [runToLine, runToLine, status_followedBy, hasLine_followedBy, if_pos active,
        if_neg inSource, if_pos active, if_neg inSource]
      rfl
  · rw [runToLine, runToLine, status_followedBy, if_neg active, if_neg active,
      loaded.idle_followedBy]
    rfl

/-- Going back leads to the same position where the recording goes on. -/
theorem Consistent.stepBack_followedBy (consistent : session.Consistent)
    (begun : session.status ≠ .uninitialized) :
    (session.followedBy lines frames).stepBack = session.stepBack.followedBy lines frames := by
  have loaded := consistent.loaded begun
  rcases session.stepBack_cases with
    ⟨inactive, same⟩ | ⟨active, single, same⟩ |
    ⟨active, current, previous, older, visited, ⟨index, found, same⟩ | ⟨missing, absent, same⟩⟩
  · rw [same, stepBack, status_followedBy, if_neg inactive, loaded.idle_followedBy]
  · have stays : (session.followedBy lines frames).stepBack =
        (session.followedBy lines frames).stay := stepBack_eq_stay active single
    rw [stays, same, loaded.stay_followedBy]
  · have returns : (session.followedBy lines frames).stepBack = _ :=
      stepBack_eq_of_found active visited (Recording.nth_append found lines)
    have back : (session.backAt previous older index).Loaded := loaded.returned visited found
    have report : ((session.backAt previous older index).followedBy lines frames).report
        (some previous.line) .active =
          (session.backAt previous older index).report (some previous.line) .active :=
      back.report_followedBy _ _
    rw [returns, same]
    exact congrArg (fun answer => Turn.mk answer _ _) report
  · have error := consistent.outcome_stepBack_ne_error
    rw [same] at error
    exact (error rfl).elim

/-- Only a snapshot tells the number of steps. -/
theorem map_withTotalSteps_run {command : Command} (notShown : command ≠ .getState)
    (totalSteps : Nat) :
    (command.run session).answer.map (Reply.withTotalSteps totalSteps) =
      (command.run session).answer := by
  cases command with
  | start source trace breakpoints depths =>
      rw [Command.run, Turn.map]
      cases (session.restart source _ breakpoints).answer <;> rfl
  | forward action => rfl
  | stepBack => rfl
  | addBreakpoint line =>
      rw [Command.run, breakpointTurn, Turn.map]
      cases (session.addBreakpoint line).answer <;> rfl
  | removeBreakpoint line =>
      rw [Command.run, breakpointTurn, Turn.map]
      cases (session.removeBreakpoint line).answer <;> rfl
  | toggleBreakpoint line =>
      rw [Command.run, breakpointTurn, Turn.map]
      cases (session.toggleBreakpoint line).answer <;> rfl
  | clearBreakpoints => rfl
  | runToLine line =>
      rw [Command.run, Turn.map]
      cases (session.runToLine line).answer <;> rfl
  | getState => exact (notShown rfl).elim
  | getScopeInfo line => rfl

/-- Every command but a start or a snapshot does the same where the recording goes on. -/
theorem Consistent.run_followedBy (consistent : session.Consistent)
    (begun : session.status ≠ .uninitialized) (aligned : frames.length = lines.length)
    {command : Command} (notStart : command.isStart = false) (notShown : command ≠ .getState)
    (goesOn : ¬(command.run session).Completes) :
    command.run (session.followedBy lines frames) =
      (command.run session).followedBy lines frames := by
  have loaded := consistent.loaded begun
  cases command with
  | start source trace breakpoints depths => cases notStart
  | forward action =>
      have onward : (session.perform action).answer.outcome ≠ .complete :=
        fun complete => goesOn (congrArg some complete)
      rw [Command.run, loaded.perform_followedBy aligned action onward]
      rfl
  | stepBack =>
      rw [Command.run, consistent.stepBack_followedBy begun]
      rfl
  | runToLine line =>
      have onward : ∀ report, (session.runToLine line).answer = .ok report →
          report.outcome ≠ .complete := by
        intro report answered complete
        refine goesOn ?_
        rw [Turn.Completes, Command.run, Turn.map, answered]
        exact congrArg some complete
      rw [Command.run, loaded.runToLine_followedBy aligned line onward]
      rfl
  | addBreakpoint line =>
      rw [Command.run, Command.run, addBreakpoint, addBreakpoint, hasLine_followedBy]
      split <;> rfl
  | removeBreakpoint line =>
      rw [Command.run, Command.run, removeBreakpoint, removeBreakpoint, hasLine_followedBy]
      split <;> rfl
  | toggleBreakpoint line =>
      by_cases inSource : session.hasLine line = true
      · have toggles : (session.followedBy lines frames).toggleBreakpoint line = _ :=
          toggleBreakpoint_eq inSource
        rw [Command.run, Command.run, toggles, toggleBreakpoint_eq inSource]
        rfl
      · rw [Command.run, Command.run, toggleBreakpoint, toggleBreakpoint, removeBreakpoint,
          removeBreakpoint, hasLine_followedBy, if_neg inSource, if_neg inSource]
        rfl
  | clearBreakpoints => rfl
  | getState => exact (notShown rfl).elim
  | getScopeInfo line => rfl

/-- A start does the same to sessions with the same settings, unless it is refused. -/
theorem run_start_of_settings {left right : Session} (same : left.settings = right.settings)
    {command : Command} (start : command.isStart = true) :
    (∃ refused,
      command.run left = left.refuse refused ∧ command.run right = right.refuse refused) ∨
      command.run right = command.run left := by
  cases command with
  | start source trace breakpoints depths =>
      rcases restart_of_settings same source { lines := trace, depths } breakpoints with
        ⟨refused, first, second⟩ | ⟨report, _, equal⟩
      · refine Or.inl ⟨refused, ?_, ?_⟩
        · rw [Command.run, first]
          rfl
        · rw [Command.run, second]
          rfl
      · refine Or.inr ?_
        rw [Command.run, Command.run, equal]
  | _ => cases start

/--
A session on a recording that was cut off, and the session on the whole of it.  After a fresh start
the two may well be the same.
-/
inductive Foreshadows : (short long : Session) → Prop
  | same (session : Session) : Foreshadows session session
  | followed {session : Session} {lines : List Nat} {frames : List Frame}
      (begun : session.status ≠ .uninitialized) (aligned : frames.length = lines.length) :
      Foreshadows session (session.followedBy lines frames)

/-- A session that was started stays so. -/
theorem Change.stays_begun {event : Option Event} {changed : Session}
    (change : session.Change event changed) (begun : session.status ≠ .uninitialized) :
    changed.status ≠ .uninitialized := by
  cases change with
  | unchanged => exact begun
  | started _ _ _ => exact Status.noConfusion
  | moved _ _ _ => exact begun
  | returned _ _ _ => exact begun
  | lost _ _ _ => exact Status.noConfusion
  | completed _ => exact Status.noConfusion
  | marked _ => exact begun

/-- A turn with the numbers of steps that its session has looks like itself. -/
theorem foreshows_run_self (session : Session) (command : Command) :
    (command.run session).Foreshows (command.run session) where
  answer := by
    by_cases shown : command = .getState
    · rw [shown]
      rfl
    · rw [map_withTotalSteps_run shown]
  event := rfl
  index := rfl
  history := rfl
  breakpoints := rfl
  status := rfl

/--
One command, given to both sessions: unless the first runs past its end, the turns look alike, and
the sessions still go together afterwards.
-/
theorem Foreshadows.run {short long : Session} (together : Foreshadows short long)
    (consistent : short.Consistent) (command : Command)
    (goesOn : ¬(command.run short).Completes) :
    (command.run short).Foreshows (command.run long) ∧
      Foreshadows (command.run short).session (command.run long).session := by
  cases together with
  | same => exact ⟨foreshows_run_self short command, .same _⟩
  | @followed lines frames begun aligned =>
      have begunNext := (short.run_change command).stays_begun begun
      by_cases start : command.isStart = true
      · have settings : short.settings = (short.followedBy lines frames).settings := rfl
        rcases run_start_of_settings settings start with ⟨refused, first, second⟩ | equal
        · rw [first, second]
          exact ⟨⟨rfl, rfl, rfl, rfl, rfl, rfl⟩, .followed begun aligned⟩
        · -- Nothing is left of the recordings that went before, so the two sessions are now one.
          rw [equal]
          exact ⟨foreshows_run_self short command, .same _⟩
      · by_cases shown : command = .getState
        · rw [shown]
          refine ⟨⟨?_, rfl, rfl, rfl, rfl, rfl⟩, .followed begun aligned⟩
          rw [Command.run, (consistent.loaded begun).snapshot_followedBy]
          rfl
        · have follows := consistent.run_followedBy begun aligned
            (Bool.eq_false_iff.mpr start) shown goesOn
          rw [follows]
          refine ⟨⟨?_, rfl, rfl, rfl, rfl, rfl⟩, .followed begunNext aligned⟩
          rw [map_withTotalSteps_run shown]
          rfl

/-- As long as the first session does not run past its end, the turns of a run look alike. -/
theorem Foreshadows.turns {short long : Session} (together : Foreshadows short long)
    (consistent : short.Consistent) (commands : List Command)
    (goesOn : ∀ turn ∈ short.turns commands, ¬turn.Completes) :
    List.Forall₂ Turn.Foreshows (short.turns commands) (long.turns commands) := by
  induction commands generalizing short long with
  | nil => exact List.Forall₂.nil
  | cons command rest induction =>
      have first : ¬(command.run short).Completes := goesOn _ List.mem_cons_self
      obtain ⟨alike, still⟩ := together.run consistent command first
      have next := (short.run_change command).consistent consistent
      refine List.Forall₂.cons alike (induction still next ?_)
      intro turn later
      exact goesOn turn (List.mem_cons_of_mem _ later)

/-! ## A recording and one that continues it -/

/-- The lines that a source is debugged by. -/
abbrev linesOf (source : String) : List String :=
  (Text.lines source.toList).map String.ofList

/-- A start on a recording with positions is refused for a breakpoint outside the source. -/
theorem run_start_eq_refuse (session : Session) {source : String} {recording : Recording}
    {breakpoints : List Nat} {line : Nat} (nonempty : recording.lines ≠ [])
    (missing : firstMissing? (linesOf source).length breakpoints = some line) :
    Command.run session (.start source recording.lines breakpoints recording.depths) =
      session.refuse (.invalidLine line (linesOf source).length) := by
  rw [Command.run]
  unfold restart
  split
  case h_1 empty => exact (nonempty empty).elim
  case h_2 =>
    dsimp only
    rw [missing]
    rfl

/-- A start on a recording with positions and frames, with breakpoints inside the source. -/
theorem run_start_eq_started (session : Session) {source : String} {recording : Recording}
    {breakpoints : List Nat} {frames : List Frame} (nonempty : recording.lines ≠ [])
    (valid : firstMissing? (linesOf source).length breakpoints = none)
    (framed :
      recording.frames (ScopeTable.ofLines session.settings.tabWidth (linesOf source)) =
        .ok frames) :
    Command.run session (.start source recording.lines breakpoints recording.depths) =
      let started := session.startedOn (linesOf source) recording.lines frames breakpoints
      { answer := .ok (.report (started.report (some (recording.lines.headD 0)) .active))
        session := started
        event := some { kind := .start, line := recording.lines.headD 0, index := 0 } } := by
  obtain ⟨lines, depths⟩ := recording
  cases lines with
  | nil => exact (nonempty rfl).elim
  | cons first rest =>
      rw [Command.run, restart]
      dsimp only at framed ⊢
      rw [valid]
      dsimp only
      rw [framed]
      rfl

/-- The recording that goes on has more lines, and its frames are as many more. -/
theorem startedOn_continues (session : Session) {shorter longer : Recording}
    {source : List String} {frames later : List Frame}
    (continues : longer.Continues shorter) (nonempty : shorter.lines ≠ [])
    (framed : shorter.frames (ScopeTable.ofLines session.settings.tabWidth source) = .ok frames)
    (framedLonger :
      longer.frames (ScopeTable.ofLines session.settings.tabWidth source) =
        .ok (frames ++ later))
    (breakpoints : List Nat) :
    ∃ more, later.length = more.length ∧
      session.startedOn source longer.lines (frames ++ later) breakpoints =
        (session.startedOn source shorter.lines frames breakpoints).followedBy more later := by
  obtain ⟨more, lines⟩ := continues.lines_eq
  have first := continues.headD_lines nonempty
  refine ⟨more, ?_, ?_⟩
  · have length := Recording.length_frames framed
    have lengthLonger := Recording.length_frames framedLonger
    rw [lines, List.length_append, List.length_append, length] at lengthLonger
    exact Nat.add_left_cancel lengthLonger
  · rw [startedOn, startedOn, followedBy, first, lines, List.map_append]

/-- Starts on a recording and on one that continues it look alike and lead to sessions together. -/
theorem foreshadows_start (settings : EngineSettings) (source : String) (breakpoints : List Nat)
    {shorter longer : Recording} (continues : longer.Continues shorter)
    (nonempty : shorter.lines ≠ []) :
    let start (recording : Recording) : Turn (Except SessionError Reply) :=
      Command.run (new settings)
        (.start source recording.lines breakpoints recording.depths)
    (start shorter).Foreshows (start longer) ∧
      Foreshadows (start shorter).session (start longer).session := by
  intro start
  have nonemptyLonger := continues.lines_ne_nil nonempty
  cases missing : firstMissing? (linesOf source).length breakpoints with
  | some line =>
      have refused : start longer = start shorter :=
        (run_start_eq_refuse _ nonemptyLonger missing).trans
          (run_start_eq_refuse _ nonempty missing).symm
      rw [refused]
      exact ⟨foreshows_run_self _ _, .same _⟩
  | none =>
      obtain ⟨frames, later, framed, framedLonger⟩ :=
        continues.frames nonempty (ScopeTable.ofLines settings.tabWidth (linesOf source))
      obtain ⟨more, aligned, followed⟩ :=
        startedOn_continues (new settings) continues nonempty framed framedLonger breakpoints
      have short : start shorter = _ :=
        run_start_eq_started (new settings) nonempty missing framed
      have long : start longer = _ :=
        run_start_eq_started (new settings) nonemptyLonger missing framedLonger
      have loaded : ((new settings).startedOn _ shorter.lines frames breakpoints).Loaded :=
        loaded_startedOn nonempty framed
      rw [short, long, followed, continues.headD_lines nonempty]
      refine ⟨⟨?_, rfl, rfl, rfl, rfl, rfl⟩, .followed Status.noConfusion aligned⟩
      exact congrArg (fun report => Except.ok (Reply.report report))
        (loaded.report_followedBy _ _)

/--
Whatever recording is cut off from a longer one, its frames are the first frames of the longer one.
Whatever commands follow the start, as long as none of them is answered that the shorter
recording is over, every answer and event is the same on both, but for the number of steps in
snapshots, and so are index, history, breakpoints and status afterwards.
-/
theorem turns_foreshadowed (settings : EngineSettings) (source : String)
    (breakpoints : List Nat) {shorter longer : Recording}
    (continues : longer.Continues shorter) (nonempty : shorter.lines ≠ [])
    (commands : List Command) :
    let start (recording : Recording) : Turn (Except SessionError Reply) :=
      Command.run (new settings)
        (.start source recording.lines breakpoints recording.depths)
    (∀ table, ∃ frames later, shorter.frames table = .ok frames ∧
      frames.length = shorter.lines.length ∧ longer.frames table = .ok (frames ++ later)) ∧
    (start shorter).Foreshows (start longer) ∧
    ((∀ turn ∈ (start shorter).session.turns commands, ¬turn.Completes) →
      List.Forall₂ Turn.Foreshows ((start shorter).session.turns commands)
        ((start longer).session.turns commands)) := by
  intro start
  have consistent : (start shorter).session.Consistent :=
    ((new settings).run_change _).consistent (consistent_new settings)
  obtain ⟨alike, together⟩ :=
    foreshadows_start settings source breakpoints continues nonempty
  refine ⟨fun table => ?_, alike, fun goesOn => together.turns consistent commands goesOn⟩
  obtain ⟨frames, later, framed, framedLonger⟩ := continues.frames nonempty table
  exact ⟨frames, later, framed, Recording.length_frames framed, framedLonger⟩

/-- A loop that is cut off before its last lap, with its depths recorded. -/
theorem turns_foreshadowed_in_a_loop :
    let commands : List Command :=
      [.forward .continue, .getState, .forward .step, .stepBack, .runToLine 2, .addBreakpoint 9]
    let shorter : Recording := { lines := [1, 2, 1, 2], depths := some [4, 4, 4, 5] }
    let longer : Recording :=
      { lines := [1, 2, 1, 2] ++ [1, 3], depths := some ([4, 4, 4, 5] ++ [5, 3]) }
    let start (recording : Recording) : Session :=
      (Command.run (new {})
        (.start "a\nb\nc" recording.lines [1] recording.depths)).session
    shorter.lines ≠ [] ∧
      (∀ turn ∈ (start shorter).turns commands, ¬turn.Completes) ∧
        List.Forall₂ Turn.Foreshows ((start shorter).turns commands)
          ((start longer).turns commands) := by
  intro commands shorter longer start
  have nonempty : shorter.lines ≠ [] := by decide
  have goesOn : ∀ turn ∈ (start shorter).turns commands, ¬turn.Completes := by decide +kernel
  have continues : longer.Continues shorter := .recorded rfl rfl
  exact ⟨nonempty, goesOn,
    (turns_foreshadowed {} "a\nb\nc" [1] continues nonempty commands).2.2 goesOn⟩

end Session

end Playback
