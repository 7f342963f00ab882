import Playback.Proofs.Session.Consistency

/-!
# Reports, snapshots and scopes tell the same

A report takes the text and the scope of its line from the source, and a snapshot takes them from
the frame of its position.  The two were made together when the session was started, and they tell
the same ever after: the main statement compares every report with the snapshot that is
taken right after it.

Two things are needed for that.  The frames of a reachable session tell of their lines what
its scopes tell, which is one more invariant.  And every report is made of the session as it stands
after the turn, on its line if it can be moved and on none otherwise, whatever the command was.  So
no report tells an error either.
-/

namespace Playback

namespace Session

variable {session changed : Session} {event : Option Event}

/-- A session whose scopes are those of its source and whose frames tell the same of their lines. -/
structure Judged (session : Session) : Prop where
  scopes : session.scopes = ScopeTable.ofLines session.settings.tabWidth session.source
  frames : ∀ frame ∈ session.frames,
    frame = Recording.frameAt session.scopes frame.line frame.depth

theorem judged_new (settings : EngineSettings) : (new settings).Judged :=
  ⟨rfl, List.forall_mem_nil _⟩

/-- Only a start makes scopes and frames, and it makes them of one table. -/
theorem Change.judged (change : session.Change event changed) (judged : session.Judged) :
    changed.Judged := by
  cases change with
  | started _ _ framed => exact ⟨rfl, Recording.eq_frameAt_of_mem_frames framed⟩
  | unchanged => exact judged
  | moved _ _ _ => exact ⟨judged.scopes, judged.frames⟩
  | returned _ _ _ => exact ⟨judged.scopes, judged.frames⟩
  | lost _ _ _ => exact ⟨judged.scopes, judged.frames⟩
  | completed _ => exact ⟨judged.scopes, judged.frames⟩
  | marked _ => exact ⟨judged.scopes, judged.frames⟩

theorem judged_after (settings : EngineSettings) (commands : List Command) :
    ((new settings).after commands).Judged :=
  after_of_change (fun change judged => change.judged judged) (judged_new settings) commands

/-- The lines of the source are those that have a text. -/
theorem isSome_sourceLine? (session : Session) (line : Nat) :
    (session.sourceLine? line).isSome = session.hasLine line := by
  cases line with
  | zero => rfl
  | succ line =>
      rw [sourceLine?, hasLine, Bool.eq_iff_iff, Option.isSome_iff_ne_none, ne_eq,
        List.getElem?_eq_none_iff]
      simp only [Bool.and_eq_true, decide_eq_true_eq]
      omega

theorem sourceLine?_of_hasLine {line : Nat} (inSource : session.hasLine line = true) :
    session.sourceLine? line = session.source[line - 1]? := by
  cases line with
  | zero => cases inSource
  | succ line => rfl

/-- A line that the source lacks counts as a plain line at indent zero. -/
theorem Judged.scopeOf_of_outside (judged : session.Judged) {line : Nat}
    (outside : session.hasLine line = false) : session.scopeOf line = {} := by
  rw [scopeOf, judged.scopes]
  cases line with
  | zero => rfl
  | succ line =>
      have beyond : session.source.length ≤ line := by
        simpa [hasLine, Nat.succ_le_iff] using outside
      simp [ScopeTable.get, ScopeTable.get?, ScopeTable.ofLines, List.getElem?_eq_none beyond]

/-- The snapshot of a started session tells the scope of the line that the session stands on. -/
theorem Loaded.scope_here (loaded : session.Loaded) (judged : session.Judged) {line : Nat}
    (here : session.lineHere? = some line) :
    session.snapshot.indent = (session.scopeOf line).indent ∧
      session.snapshot.kind = (session.scopeOf line).kind := by
  have inside : session.index < session.frames.length := loaded.length_frames ▸ loaded.inside
  have held : session.frame? = some session.frames[session.index] :=
    List.getElem?_eq_getElem inside
  have named : session.lineHere? = some session.frames[session.index].line :=
    (loaded.frame_at held).2
  obtain rfl := Option.some.inj (here.symm.trans named)
  have told := judged.frames _ (List.getElem_mem inside)
  have indent := congrArg Frame.indent told
  have kind := congrArg Frame.kind told
  simp only [snapshot, held, Option.map_some, Option.getD_some]
  exact ⟨indent, kind⟩

/-! ## What is reported -/

/-- A report of a session as it stands: on its line if it can be moved, on none otherwise. -/
inductive Reported (session : Session) : Report → Prop
  | active (active : session.status = .active) :
      Reported session (session.report session.lineHere? .active)
  | complete (complete : session.status = .complete) :
      Reported session (session.report none .complete)
  | inactive (inactive : session.status ≠ .active) :
      Reported session (session.report none .inactive)

/-- A report on a line that the session stands on. -/
theorem reported_of_lineHere {line : Nat} (active : session.status = .active)
    (here : session.lineHere? = some line) :
    session.Reported (session.report (some line) .active) := by
  rw [← here]
  exact .active active

/-- A report does not look at the breakpoints. -/
theorem Reported.withBreakpoints {report : Report} (reported : session.Reported report)
    (breakpoints : LineSet) : (session.withBreakpoints breakpoints).Reported report := by
  cases reported with
  | active active => exact .active active
  | complete complete => exact .complete complete
  | inactive inactive => exact .inactive inactive

theorem reported_perform (loaded : session.status = .active → session.Loaded)
    (action : Action) :
    (session.perform action).session.Reported (session.perform action).answer := by
  rcases session.perform_cases action with
    ⟨inactive, same⟩ | ⟨active, ⟨target, lands, same⟩ | ⟨_, same⟩ | ⟨_, _, same⟩⟩
  · rw [same]
    exact .inactive inactive
  · rw [same]
    have inside := ((loaded active).land lands).2
    have here : (session.movedTo target).lineHere? =
        some (session.trace[target]?.getD 0) := by
      simp [lineHere?, movedTo, List.getElem?_eq_getElem inside]
    exact reported_of_lineHere active here
  · rw [same]
    exact .complete rfl
  · rw [same]
    exact .active active

theorem Consistent.reported_stepBack (consistent : session.Consistent) :
    session.stepBack.session.Reported session.stepBack.answer := by
  rcases session.stepBack_cases with
    ⟨inactive, same⟩ | ⟨active, _, same⟩ |
    ⟨active, current, previous, older, visited, ⟨index, found, same⟩ | ⟨missing, absent, same⟩⟩
  · rw [same]
    exact .inactive inactive
  · rw [same]
    exact .active active
  · rw [same]
    exact reported_of_lineHere active (Recording.nth_eq_ok_iff_rankAt.mp found).1
  · have error := consistent.outcome_stepBack_ne_error
    rw [same] at error
    exact (error rfl).elim

theorem Consistent.reported_runToLine (consistent : session.Consistent) {target : Nat}
    {report : Report} (answered : (session.runToLine target).answer = .ok report) :
    (session.runToLine target).session.Reported report := by
  by_cases active : session.status = .active
  · by_cases inSource : session.hasLine target = true
    · have marked : (session.withBreakpoints (session.breakpoints.insert target)).Loaded :=
        (consistent.loaded_of_active active).withBreakpoints _
      rw [runToLine_eq active inSource] at answered ⊢
      cases answered
      exact (reported_perform (fun _ => marked) .continue).withBreakpoints _
    · rw [runToLine_eq_refuseLine active inSource] at answered
      cases answered
  · rw [runToLine, if_neg active] at answered ⊢
    cases answered
    exact .inactive active

/-- Every report is made of the session as it stands after the turn. -/
theorem Consistent.reported_run (consistent : session.Consistent) {command : Command}
    {report : Report} (answered : (command.run session).answer = .ok (.report report)) :
    (command.run session).session.Reported report := by
  cases command with
  | start source trace breakpoints depths =>
      rcases session.restart_cases source { lines := trace, depths } breakpoints with
        ⟨refused, same⟩ | ⟨frames, nonempty, _, _, same⟩
      · simp [Command.run, same, Turn.map, refuse, Except.map] at answered
      · simp only [Command.run, same, Turn.map, Except.map] at answered ⊢
        cases answered
        refine reported_of_lineHere rfl ?_
        cases trace with
        | nil => exact (nonempty rfl).elim
        | cons first rest => rfl
  | forward action =>
      cases answered
      exact reported_perform consistent.loaded_of_active action
  | stepBack =>
      cases answered
      exact consistent.reported_stepBack
  | runToLine line =>
      rw [Command.run, Turn.map] at answered ⊢
      cases answer : (session.runToLine line).answer with
      | error refused =>
          rw [answer] at answered
          cases answered
      | ok report =>
          rw [answer] at answered
          cases answered
          exact consistent.reported_runToLine answer
  | addBreakpoint line | removeBreakpoint line | toggleBreakpoint line =>
      simp only [Command.run, breakpointTurn, Turn.map] at answered
      generalize (Turn.answer _) = answer at answered
      cases answer <;> cases answered
  | clearBreakpoints | getState | getScopeInfo line => cases answered

/-- What every report tells, whatever came of the movement. -/
theorem Reported.standing {report : Report} (reported : session.Reported report) :
    report.index = session.index ∧ report.depth = session.frame?.map (·.depth) ∧
      report.outcome ≠ .error := by
  cases reported <;> exact ⟨rfl, rfl, Outcome.noConfusion⟩

/-- No command given to a consistent session is answered by the report of an error. -/
theorem Consistent.outcome_run_ne_error (consistent : session.Consistent) {command : Command}
    {report : Report} (answered : (command.run session).answer = .ok (.report report)) :
    report.outcome ≠ .error :=
  (consistent.reported_run answered).standing.2.2

/-- A run from a consistent session reaches no error and reports none. -/
theorem Consistent.turns_ne_error (consistent : session.Consistent) (commands : List Command) :
    ∀ turn ∈ session.turns commands,
      turn.session.status ≠ .error ∧
        ∀ report, turn.answer = .ok (.report report) → report.outcome ≠ .error := by
  induction commands generalizing session with
  | nil => simp [turns]
  | cons command rest induction =>
      have next : (command.run session).session.Consistent :=
        (session.run_change command).consistent consistent
      intro turn member
      rcases List.mem_cons.mp member with rfl | later
      · exact ⟨next.status_ne_error, fun _ => consistent.outcome_run_ne_error⟩
      · exact induction next turn later

/-! ## Agreement -/

/-- A report that tells what the snapshot and the scopes of a session tell. -/
structure Agrees (session : Session) (report : Report) : Prop where
  index : report.index = session.snapshot.index
  depth_eq_none_iff : report.depth = none ↔ session.snapshot.status = .uninitialized
  depth : session.snapshot.status ≠ .uninitialized → report.depth = some session.snapshot.depth
  outcome_ne_error : report.outcome ≠ .error
  active : report.outcome = .active →
    session.snapshot.status = .active ∧ report.line.isSome ∧
      report.line = session.snapshot.line ∧ report.line = session.trace[report.index]?
  inSource : ∀ line, report.line = some line → 1 ≤ line → line ≤ session.source.length →
    report.text.isSome ∧ report.text = session.source[line - 1]? ∧
      report.indent = some session.snapshot.indent ∧
      report.kind = some session.snapshot.kind ∧
      (session.scopeOf line).indent = session.snapshot.indent ∧
      (session.scopeOf line).kind = session.snapshot.kind
  outside : ∀ line, report.line = some line → ¬(1 ≤ line ∧ line ≤ session.source.length) →
    report.text = none ∧ report.indent = none ∧ report.kind = none ∧
      session.snapshot.indent = 0 ∧ session.snapshot.kind = .plain
  stopped : report.outcome ≠ .active →
    report.line = none ∧ report.text = none ∧ report.indent = none ∧ report.kind = none ∧
      session.snapshot.isActive = false

/-- Only a session that was never started stands on no frame. -/
theorem Consistent.frame?_eq_none_iff (consistent : session.Consistent) :
    session.frame? = none ↔ session.status = .uninitialized := by
  constructor
  · intro missing
    by_contra begun
    have loaded := consistent.loaded begun
    have beyond : session.frames.length ≤ session.index := List.getElem?_eq_none_iff.mp missing
    rw [loaded.length_frames] at beyond
    exact Nat.not_lt_of_ge beyond loaded.inside
  · intro unstarted
    rw [consistent.untouched unstarted]
    rfl

/-- A report on a line of the source has the text and the scope of the line. -/
theorem report_of_hasLine {line : Nat} (inSource : session.hasLine line = true)
    (outcome : Outcome) :
    let report := session.report (some line) outcome
    report.text.isSome ∧ report.text = session.source[line - 1]? ∧
      report.indent = some (session.scopeOf line).indent ∧
      report.kind = some (session.scopeOf line).kind := by
  have text : (session.sourceLine? line).isSome = true := by
    rw [isSome_sourceLine?, inSource]
  refine ⟨text, sourceLine?_of_hasLine inSource, ?_, ?_⟩ <;> simp [report, text]

/-- A report on a line that the source lacks has neither a text nor a scope. -/
theorem report_of_outside {line : Nat} (outside : session.hasLine line = false)
    (outcome : Outcome) :
    let report := session.report (some line) outcome
    report.text = none ∧ report.indent = none ∧ report.kind = none := by
  have text : session.sourceLine? line = none := by
    rw [← Option.not_isSome_iff_eq_none, isSome_sourceLine?, outside]
    exact Bool.false_ne_true
  refine ⟨text, ?_, ?_⟩ <;> simp [report, text]

/-- A report with a line is one of an active session on the line that it stands on. -/
theorem Reported.eq_of_line {report : Report} (reported : session.Reported report) {line : Nat}
    (named : report.line = some line) :
    session.status = .active ∧ session.lineHere? = some line ∧
      report = session.report (some line) .active := by
  cases reported with
  | active active =>
      have here : session.lineHere? = some line := named
      rw [here]
      exact ⟨active, rfl, rfl⟩
  | complete _ => cases named
  | inactive _ => cases named

/-- A report of a reachable session agrees with its snapshot and its scopes. -/
theorem Consistent.agrees (consistent : session.Consistent) (judged : session.Judged)
    {report : Report} (reported : session.Reported report) : session.Agrees report := by
  obtain ⟨index, depth, outcome⟩ := reported.standing
  refine
    { index, outcome_ne_error := outcome
      depth_eq_none_iff := ?_
      depth := fun begun => ?_
      active := fun moved => ?_
      inSource := fun line named positive bounded => ?_
      outside := fun line named missing => ?_
      stopped := fun stopped => ?_ }
  · rw [depth, Option.map_eq_none_iff]
    exact consistent.frame?_eq_none_iff
  · cases frame : session.frame? with
    | none => exact (begun (consistent.frame?_eq_none_iff.mp frame)).elim
    | some here => simp [depth, snapshot, frame]
  · cases reported with
    | active active =>
        have inside := (consistent.loaded_of_active active).inside
        have current : session.currentLine? = session.lineHere? := if_neg (by simp [active])
        refine ⟨active, ?_, current.symm, rfl⟩
        simp [report, lineHere?, List.getElem?_eq_getElem inside]
    | complete _ => cases moved
    | inactive _ => cases moved
  · obtain ⟨active, here, rfl⟩ := reported.eq_of_line named
    obtain ⟨indent, kind⟩ := (consistent.loaded_of_active active).scope_here judged here
    rw [indent, kind]
    obtain ⟨some, text, scope⟩ := report_of_hasLine (hasLine_iff.mpr ⟨positive, bounded⟩) .active
    exact ⟨some, text, scope.1, scope.2, rfl, rfl⟩
  · obtain ⟨active, here, rfl⟩ := reported.eq_of_line named
    obtain ⟨indent, kind⟩ := (consistent.loaded_of_active active).scope_here judged here
    have absent : session.hasLine line = false := by
      rw [← Bool.not_eq_true, hasLine_iff]
      exact missing
    rw [judged.scopeOf_of_outside absent] at indent kind
    obtain ⟨text, noIndent, noKind⟩ := report_of_outside absent .active
    exact ⟨text, noIndent, noKind, indent, kind⟩
  · cases reported with
    | active _ => exact (stopped rfl).elim
    | complete complete => exact ⟨rfl, rfl, rfl, rfl, by simp [snapshot, complete]⟩
    | inactive inactive => exact ⟨rfl, rfl, rfl, rfl, by simp [snapshot, inactive]⟩

/-- Whether there is a way back is told by whether going back would move the session. -/
theorem Consistent.canStepBack_iff (consistent : session.Consistent) :
    session.snapshot.canStepBack = true ↔ session.stepBack.session.index ≠ session.index := by
  have told : session.snapshot.canStepBack = true ↔
      session.status = .active ∧ 1 < session.history.length := by
    simp [snapshot]
  rw [told]
  rcases consistent.stepBack_cases with
    ⟨inactive, same⟩ | ⟨active, single, same⟩ |
    ⟨active, current, previous, older, index, visited, below, same⟩
  · rw [same]
    exact ⟨fun way => (inactive way.1).elim, fun moves => (moves rfl).elim⟩
  · rw [same]
    exact ⟨fun way => (Nat.not_lt_of_ge single way.2).elim, fun moves => (moves rfl).elim⟩
  · rw [same, visited]
    exact ⟨fun _ => Nat.ne_of_lt below, fun _ => ⟨active, by simp⟩⟩

/--
Whatever commands a session was given, every report that the next command is answered by agrees with
the snapshot taken right after it and with the scopes that can be asked for.  And whatever the next
command was, the snapshot tells that there is a way back exactly if going back would then change the
index.
-/
theorem reports_agree (settings : EngineSettings) (earlier : List Command) (command : Command) :
    let turn := command.run ((new settings).after earlier)
    (∀ report, turn.answer = .ok (.report report) → turn.session.Agrees report) ∧
      (turn.session.snapshot.canStepBack = true ↔
        turn.session.stepBack.session.index ≠ turn.session.index) := by
  intro turn
  have before := consistent_after settings earlier
  have change := run_change ((new settings).after earlier) command
  have consistent : turn.session.Consistent := change.consistent before
  have judged : turn.session.Judged := change.judged (judged_after settings earlier)
  exact ⟨fun report answered => consistent.agrees judged (before.reported_run answered),
    consistent.canStepBack_iff⟩

end Session

end Playback
