import Playback.Proofs.Session.Account
import Playback.Proofs.Stepping.Following

/-!
# The life of a session between two starts

A session that was started can be moved until it runs past the end, and after that only a start
makes it move again.  So between two starts its status changes once at most.  Before the first
start and after the end a session is frozen: whatever it is told, nothing of it changes but its
breakpoints, nothing is announced, and whoever asks it to move is told that it is inactive.

While it can be moved, going forward and going back change the index in one direction each, or
they leave the session where it is for a reason that is stated.
-/

namespace Playback

/-- A command to move a session that was started. -/
def Command.isMove : Command → Bool
  | .forward _ | .stepBack | .runToLine _ => true
  | _ => false

namespace Session

/-- Whether one of the commands given one after the other starts the session. -/
def restartedBy (session : Session) : List Command → Bool
  | [] => false
  | command :: rest =>
    session.startedBy command || (command.run session).session.restartedBy rest

/-- The statuses that a session goes through, the one before the first command first. -/
def statuses (session : Session) (commands : List Command) : List Status :=
  session.status :: (session.turns commands).map (·.session.status)

variable {session changed : Session} {event : Option Event} {command : Command}
  {commands : List Command}

theorem restartedBy_cons {rest : List Command} :
    session.restartedBy (command :: rest) = false ↔
      session.startedBy command = false ∧
        (command.run session).session.restartedBy rest = false := by
  rw [restartedBy, Bool.or_eq_false_iff]

/-- A command that starts nothing announces no start. -/
theorem Consistent.kind_ne_start (consistent : session.Consistent)
    (notStarted : session.startedBy command = false) :
    ∀ told ∈ (command.run session).event, told.kind ≠ .start := by
  intro told announced kind
  have started := (consistent.announced command).2.mp ⟨told, announced, kind⟩
  rw [notStarted] at started
  cases started

/-- Unless it is a start, a change ends an active session or leaves the status as it is. -/
theorem Change.status_cases (change : session.Change event changed)
    (consistent : session.Consistent) (other : ∀ told ∈ event, told.kind ≠ .start) :
    changed.status = session.status ∨
      session.status = .active ∧ changed.status = .complete := by
  cases change with
  | unchanged => exact Or.inl rfl
  | started _ _ _ => exact (other _ rfl rfl).elim
  | moved _ _ _ => exact Or.inl rfl
  | returned _ _ _ => exact Or.inl rfl
  | lost active visited absent =>
      obtain ⟨trail, along⟩ := (consistent.loaded_of_active active).trail
      obtain ⟨_, _, found, _⟩ := along.back visited
      cases found.symm.trans absent
  | completed active => exact Or.inr ⟨active, rfl⟩
  | marked _ => exact Or.inl rfl

/-- Unless it is a start, a change of a session that cannot be moved is one of breakpoints. -/
theorem Change.frozen (change : session.Change event changed)
    (inactive : session.status ≠ .active) (other : ∀ told ∈ event, told.kind ≠ .start) :
    event = none ∧ changed = session.withBreakpoints changed.breakpoints := by
  cases change with
  | unchanged => exact ⟨rfl, rfl⟩
  | started _ _ _ => exact (other _ rfl rfl).elim
  | moved active _ _ => exact (inactive active).elim
  | returned active _ _ => exact (inactive active).elim
  | lost active _ _ => exact (inactive active).elim
  | completed active => exact (inactive active).elim
  | marked _ => exact ⟨rfl, rfl⟩

/-- Under one choice of settings there is one session that was never started. -/
theorem Consistent.eq_of_uninitialized (consistent : session.Consistent)
    (later : changed.Consistent) (same : changed.settings = session.settings)
    (unstarted : session.status = .uninitialized)
    (stillUnstarted : changed.status = .uninitialized) : changed = session := by
  calc
    changed = new changed.settings := later.untouched stillUnstarted
    _ = new session.settings := by rw [same]
    _ = session := (consistent.untouched unstarted).symm

/-- Before the first start, nothing but a start changes a session or announces anything. -/
theorem Consistent.run_of_uninitialized (consistent : session.Consistent)
    (unstarted : session.status = .uninitialized) (other : command.isStart = false) :
    (command.run session).session = session ∧ (command.run session).event = none := by
  have change := session.run_change command
  have inactive : session.status ≠ .active := by
    rw [unstarted]
    exact Status.noConfusion
  obtain ⟨silent, same⟩ := change.frozen inactive fun _ => kind_run_ne_start other
  have stillUnstarted : (command.run session).session.status = .uninitialized := by
    rw [same]
    exact unstarted
  exact ⟨consistent.eq_of_uninitialized (change.consistent consistent) change.settings_eq unstarted
    stillUnstarted, silent⟩

/-- A session that cannot be moved answers every command to move alike. -/
theorem run_of_inactive (inactive : session.status ≠ .active) (move : command.isMove = true) :
    command.run session = session.idle.map fun report => .ok (.report report) := by
  cases command with
  | forward action => rw [Command.run, perform, if_neg inactive]
  | stepBack => rw [Command.run, stepBack, if_neg inactive]
  | runToLine line =>
      rw [Command.run, runToLine, if_neg inactive]
      rfl
  | _ => cases move

/-! ## Whole runs -/

/--
Along a run without a start the status stays what it was, and if it was active it may become
complete once and for all.
-/
theorem Consistent.statuses_eq (consistent : session.Consistent)
    (notStarted : session.restartedBy commands = false) :
    ∃ kept ended,
      session.statuses commands =
          List.replicate (kept + 1) session.status ++ List.replicate ended .complete ∧
        (ended ≠ 0 → session.status = .active) := by
  induction commands generalizing session with
  | nil => exact ⟨0, 0, rfl, fun ended => (ended rfl).elim⟩
  | cons command rest induction =>
      obtain ⟨first, later⟩ := restartedBy_cons.mp notStarted
      have change := session.run_change command
      obtain ⟨kept, ended, along, active⟩ := induction (change.consistent consistent) later
      have statuses : session.statuses (command :: rest) =
          session.status :: (command.run session).session.statuses rest := rfl
      rcases change.status_cases consistent (consistent.kind_ne_start first) with
        same | ⟨wasActive, complete⟩
      · rw [same] at along active
        refine ⟨kept + 1, ended, ?_, active⟩
        rw [statuses, along]
        rfl
      · -- The session has ended with this command, so it cannot end again.
        have finished : ended = 0 := by
          by_contra again
          cases complete.symm.trans (active again)
        rw [complete, finished, List.replicate_zero, List.append_nil] at along
        refine ⟨0, kept + 1, ?_, fun _ => wasActive⟩
        rw [statuses, along]
        rfl

/-- A run without a start leaves a session that cannot be moved alone, but for breakpoints. -/
theorem Consistent.frozen (consistent : session.Consistent)
    (inactive : session.status ≠ .active) (notStarted : session.restartedBy commands = false) :
    session.eventsOf commands = [] ∧
      session.after commands = session.withBreakpoints (session.after commands).breakpoints := by
  induction commands generalizing session with
  | nil => exact ⟨rfl, rfl⟩
  | cons command rest induction =>
      obtain ⟨first, later⟩ := restartedBy_cons.mp notStarted
      have change := session.run_change command
      obtain ⟨silent, same⟩ := change.frozen inactive (consistent.kind_ne_start first)
      have stillInactive : (command.run session).session.status ≠ .active := by
        rw [same]
        exact inactive
      obtain ⟨silentLater, sameLater⟩ :=
        induction (change.consistent consistent) stillInactive later
      constructor
      · rw [eventsOf_cons, silent, silentLater]
        rfl
      · rw [after_cons, sameLater, same]
        rfl

/-- Before the first start nothing but a start leaves a trace, not even a breakpoint. -/
theorem Consistent.after_of_uninitialized (consistent : session.Consistent)
    (unstarted : session.status = .uninitialized)
    (notStarted : session.restartedBy commands = false) : session.after commands = session := by
  have inactive : session.status ≠ .active := by
    rw [unstarted]
    exact Status.noConfusion
  have same := (consistent.frozen inactive notStarted).2
  have stillUnstarted : (session.after commands).status = .uninitialized := by
    rw [same]
    exact unstarted
  exact consistent.eq_of_uninitialized (consistent.after commands) (settings_after session commands)
    unstarted stillUnstarted

/--
A forward action moves an active session ahead, or ends it where it stands, or has found no call to
step out of and leaves it alone.
-/
theorem Consistent.perform_of_active (consistent : session.Consistent)
    (active : session.status = .active) (action : Action) :
    let turn := session.perform action
    session.index < turn.session.index ∧ turn.session.status = .active ∨
      turn.session = { session with status := .complete } ∧ turn.answer.outcome = .complete ∨
        action = .stepOut ∧ session.depths[session.index]? = some 0 ∧
          session.settings.topLevelStepOut = .stay ∧
            turn.session = session ∧ turn.event = none := by
  intro turn
  have loaded := consistent.loaded_of_active active
  have aligned : session.course.depths.length = session.course.lines.length :=
    loaded.length_depths
  rcases session.perform_cases action with
    ⟨inactive, _⟩ | ⟨_, ⟨target, lands, same⟩ | ⟨_, same⟩ | ⟨top, stays, same⟩⟩
  · exact (inactive active).elim
  · rw [show turn = session.advance action target from same]
    exact Or.inl ⟨(loaded.land lands).1, active⟩
  · rw [show turn = session.finish from same]
    exact Or.inr (Or.inl ⟨rfl, rfl⟩)
  · rw [show turn = session.stay from same]
    obtain ⟨out, zero⟩ := (Course.land_eq_topLevel_iff aligned loaded.inside).mp top
    have depth : session.depths[session.index]? = some (session.course.depthAt session.index) :=
      Course.depths_getElem? aligned loaded.inside
    rw [zero] at depth
    exact Or.inr (Or.inr ⟨out, depth, stays, rfl, rfl⟩)

/-- Going back moves a session back or leaves it alone. -/
theorem Consistent.stepBack_leads_back (consistent : session.Consistent) :
    session.stepBack.session.index < session.index ∨
      session.stepBack.session = session ∧ session.stepBack.event = none := by
  rcases consistent.stepBack_cases with
    ⟨_, same⟩ | ⟨_, _, same⟩ | ⟨_, current, previous, older, index, _, below, same⟩
  · rw [same]
    exact Or.inr ⟨rfl, rfl⟩
  · rw [same]
    exact Or.inr ⟨rfl, rfl⟩
  · rw [same]
    exact Or.inl below

/--
Take any reachable session and any run in which no start is accepted.  Its status stays what it was,
except that an active session may end, once and for good.  If the session could not be moved, the
run announces nothing and changes nothing but breakpoints, before the first start not even those,
and every command to move it, whatever its line, is answered as inactive, without a line and with
the index as it was.  If the session can be moved, each forward action leads ahead, or ends it where
it stands, or finds at depth zero that there is no call to step out of and changes nothing because
the settings say so; and going back leads back or changes nothing.
-/
theorem life_between_starts (settings : EngineSettings) (earlier commands : List Command) :
    let session := (new settings).after earlier
    (session.restartedBy commands = false →
      (∃ kept ended,
        session.statuses commands =
            List.replicate (kept + 1) session.status ++ List.replicate ended .complete ∧
          (ended ≠ 0 → session.status = .active)) ∧
      (session.status ≠ .active →
        let left := session.after commands
        session.eventsOf commands = [] ∧
          left = { session with breakpoints := left.breakpoints } ∧
          (session.status = .uninitialized → left = session) ∧
          ∀ command : Command, command.isMove = true → ∃ report,
            (command.run left).answer = .ok (.report report) ∧
              report.outcome = .inactive ∧ report.line = none ∧
                report.index = session.index)) ∧
    (session.status = .active →
      (∀ action,
        let turn := session.perform action
        session.index < turn.session.index ∧ turn.session.status = .active ∨
          turn.session = { session with status := .complete } ∧
              turn.answer.outcome = .complete ∨
            action = .stepOut ∧ session.depths[session.index]? = some 0 ∧
              settings.topLevelStepOut = .stay ∧ turn.session = session ∧ turn.event = none) ∧
      (session.stepBack.session.index < session.index ∨
        session.stepBack.session = session ∧ session.stepBack.event = none)) := by
  intro session
  have consistent : session.Consistent := consistent_after settings earlier
  have limit : session.settings = settings := settings_after (new settings) earlier
  constructor
  · intro notStarted
    refine ⟨consistent.statuses_eq notStarted, fun inactive => ?_⟩
    obtain ⟨silent, same⟩ := consistent.frozen inactive notStarted
    refine ⟨silent, same,
      fun unstarted => consistent.after_of_uninitialized unstarted notStarted, ?_⟩
    intro command move
    have stillInactive : (session.after commands).status ≠ .active := by
      rw [same]
      exact inactive
    refine ⟨(session.after commands).report none .inactive, ?_, rfl, rfl, ?_⟩
    · rw [run_of_inactive stillInactive move]
      rfl
    · rw [same]
      rfl
  · intro active
    constructor
    · intro action
      rw [← limit]
      exact consistent.perform_of_active active action
    · exact consistent.stepBack_leads_back

end Session

end Playback
