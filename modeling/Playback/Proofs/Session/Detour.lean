import Playback.Proofs.Session.Watched
import Playback.Proofs.Stepping.Landing

/-!
# Running to a line is a detour over a breakpoint

Running to a line comes to the same as setting a breakpoint there, continuing, and clearing
the breakpoint again if it was new: the same answer, the same events and the same session, whatever
the observers of the session do meanwhile.  So the breakpoints are afterwards as they were before.
The run stops at the first position ahead that holds the line or has a breakpoint, and if there is
none it ends the session.

The breakpoint is there for the time of one movement, and a movement neither looks at anything that
could tell the difference nor touches the breakpoints; that is why taking it out again restores
the session.
-/

namespace Playback.Session

/-- The commands that set a breakpoint, continue, and clear the breakpoint again if it was new. -/
def detour (session : Session) (line : Nat) : List Command :=
  [.addBreakpoint line, .forward .continue] ++
    match (Command.run session (.addBreakpoint line)).answer with
    | .ok (.added true _) => [.removeBreakpoint line]
    | _ => []

/-- The positions, from the next one on, at which a run to a line may stop. -/
def stopsFor (session : Session) (target : Nat) : Set Nat :=
  { later | Stepping.next session.trace session.index ≤ later ∧
      ∃ line, session.trace[later]? = some line ∧
        (line = target ∨ line ∈ session.breakpoints.toList) }

/-- The turn of moving to a position and stopping at the breakpoint there. -/
def breaking (session : Session) (stop : Nat) : Turn Report :=
  let line := (session.visitAt stop).line
  { answer := (session.movedTo stop).report (some line) .active
    session := session.movedTo stop
    event := some { kind := .breakpoint, line, index := stop } }

variable {session : Session} {target : Nat}

/-- The session with one more breakpoint. -/
def marking (session : Session) (line : Nat) : Session :=
  session.withBreakpoints (session.breakpoints.insert line)

theorem run_addBreakpoint (inSource : session.hasLine target = true) :
    Command.run session (.addBreakpoint target) =
      { answer := .ok (.added (!session.breakpoints.contains target)
          (session.breakpoints.insert target).toList)
        session := session.marking target } := by
  rw [Command.run, addBreakpoint, if_pos inSource]
  rfl

theorem detour_eq (inSource : session.hasLine target = true) :
    session.detour target =
      [.addBreakpoint target, .forward .continue] ++
        if session.breakpoints.contains target then [] else [.removeBreakpoint target] := by
  rw [detour, run_addBreakpoint inSource]
  cases session.breakpoints.contains target <;> rfl

/-- The turn of continuing with one more breakpoint. -/
def continuing (session : Session) (line : Nat) : Turn (Except SessionError Reply) :=
  Command.run (session.marking line) (.forward .continue)

theorem breakpoints_continuing (session : Session) (line : Nat) :
    (session.continuing line).session.breakpoints = session.breakpoints.insert line :=
  (session.marking line).breakpoints_perform .continue

/-- Running to a line is continuing with one more breakpoint, which is gone afterwards. -/
theorem run_runToLine (active : session.status = .active)
    (inSource : session.hasLine target = true) :
    Command.run session (.runToLine target) =
      { session.continuing target with
        session := (session.continuing target).session.withBreakpoints session.breakpoints } :=
  congrArg (Turn.map (Except.map Reply.report)) (runToLine_eq active inSource)

/-- Clearing the breakpoint after continuing restores the breakpoints, if it was new. -/
theorem run_removeBreakpoint (inSource : session.hasLine target = true)
    (isNew : session.breakpoints.contains target = false) :
    Command.run (session.continuing target).session (.removeBreakpoint target) =
      { answer := .ok (.removed true session.breakpoints.toList)
        session := (session.continuing target).session.withBreakpoints session.breakpoints } := by
  have kept := session.breakpoints_continuing target
  have inSource' : (session.continuing target).session.hasLine target = true :=
    ((session.marking target).hasLine_perform .continue target).trans inSource
  have member : (session.breakpoints.insert target).contains target = true :=
    LineSet.contains_iff.mpr (LineSet.mem_toList_insert.mpr (Or.inl rfl))
  rw [Command.run, removeBreakpoint, if_pos inSource', kept, LineSet.erase_insert isNew, member]
  rfl

/-- The detour ends in the session that running to the line ends in, by the same events. -/
theorem detour_agrees (active : session.status = .active)
    (inSource : session.hasLine target = true) :
    session.after [.runToLine target] = session.after (session.detour target) ∧
      session.eventsOf [.runToLine target] = session.eventsOf (session.detour target) := by
  have continued : Command.run (session.marking target) (.forward .continue) =
      session.continuing target := rfl
  rw [detour_eq inSource, after_cons, eventsOf_cons, run_runToLine active inSource]
  cases known : session.breakpoints.contains target with
  | true =>
      have kept := session.breakpoints_continuing target
      rw [LineSet.insert_of_contains known] at kept
      rw [withBreakpoints_eq_self kept]
      simp [eventsOf_cons, run_addBreakpoint inSource, continued]
  | false =>
      simp [eventsOf_cons, run_addBreakpoint inSource, continued,
        run_removeBreakpoint inSource known]

/-! ## Where the run stops -/

/-- A session that stands inside its recording may stop at any position ahead. -/
theorem stopsFor_of_inside (inside : session.index < session.trace.length) :
    session.stopsFor target =
      { later | session.index < later ∧ ∃ line, session.trace[later]? = some line ∧
        (line = target ∨ line ∈ session.breakpoints.toList) } := by
  rw [stopsFor, Stepping.next_of_lt_length inside]
  rfl

/-- Continuing with one more breakpoint stops where a run to its line may stop first. -/
theorem land_marking_eq_moved_iff {stop : Nat} :
    (session.marking target).course.land .continue session.index = .moved stop ↔
      IsLeast (session.stopsFor target) stop := by
  have same : { later | Stepping.next session.trace session.index ≤ later ∧
      ∃ line, session.trace[later]? = some line ∧
        (session.breakpoints.insert target).contains line = true } =
      session.stopsFor target := by
    ext later
    refine and_congr_right fun _ => exists_congr fun line => and_congr_right fun _ => ?_
    exact LineSet.contains_iff.trans LineSet.mem_toList_insert
  rw [← same]
  exact Course.land_continue_eq_moved_iff

/-- Continuing with one more breakpoint runs past the end if a run to its line may stop nowhere. -/
theorem stopsFor_eq_empty_of_land
    (ends : (session.marking target).course.land .continue session.index = .pastEnd) :
    session.stopsFor target = ∅ := by
  refine Set.eq_empty_of_forall_notMem ?_
  rintro later ⟨reached, line, held, named⟩
  have refused := Course.land_continue_eq_pastEnd_iff.mp ends later reached line held
  have accepted : (session.breakpoints.insert target).contains line = true :=
    LineSet.contains_iff.mpr (LineSet.mem_toList_insert.mpr named)
  cases refused.symm.trans accepted

/-- A position at which a run to a line may stop has a breakpoint while it lasts. -/
theorem contains_of_mem_stopsFor {stop : Nat} (stops : stop ∈ session.stopsFor target) :
    (session.breakpoints.insert target).contains (session.visitAt stop).line = true := by
  obtain ⟨_, line, held, named⟩ := stops
  have same : (session.visitAt stop).line = line := by
    rw [visitAt, held]
    rfl
  rw [same]
  exact LineSet.contains_iff.mpr (LineSet.mem_toList_insert.mpr named)

/-- Stopping where a run to a line may stop is announced as stopping at a breakpoint. -/
theorem advance_marking {stop : Nat} (stops : stop ∈ session.stopsFor target) :
    (session.marking target).advance .continue stop =
      (session.marking target).breaking stop := by
  have kind : ((session.marking target).movedTo stop).moveKind .continue
      ((session.marking target).visitAt stop).line = .breakpoint :=
    if_pos (contains_of_mem_stopsFor stops)
  rw [breaking, ← kind]
  rfl

/-- A run to a line stops at the first position that it may stop at, or else ends the session. -/
theorem runToLine_stops (active : session.status = .active)
    (inSource : session.hasLine target = true) :
    (∃ stop, IsLeast (session.stopsFor target) stop ∧
      Command.run session (.runToLine target) =
        (session.breaking stop).map fun answer => .ok (.report answer)) ∨
      (session.stopsFor target = ∅ ∧
        Command.run session (.runToLine target) =
          session.finish.map fun answer => .ok (.report answer)) := by
  have notTop : (session.marking target).course.land .continue session.index ≠ .topLevel :=
    Course.land_continue_ne_topLevel
  have run := run_runToLine active inSource
  rcases (session.marking target).perform_cases .continue with
    ⟨inactive, _⟩ | ⟨_, ⟨stop, lands, same⟩ | ⟨ends, same⟩ | ⟨top, _, _⟩⟩
  · exact (inactive active).elim
  · have least : IsLeast (session.stopsFor target) stop := land_marking_eq_moved_iff.mp lands
    refine Or.inl ⟨stop, least, ?_⟩
    rw [run, continuing, Command.run, same, advance_marking least.1]
    rfl
  · have pastEnd := ends.resolve_right fun top => notTop top.1
    refine Or.inr ⟨stopsFor_eq_empty_of_land pastEnd, ?_⟩
    rw [run, continuing, Command.run, same]
    rfl
  · exact (notTop top).elim

/--
In every active session, running to a line of the source answers what continuing answers between
setting a breakpoint there and clearing it again if it was new; it makes the same calls to the
observers, leaves the same session and observers, and announces the same events.  The breakpoints
are afterwards those of before.  The run stops at the least position, from the next one on, whose
line is the target or has a breakpoint, or ends the session if there is none; from inside the
recording these are the positions ahead.  A line that the source lacks is refused, and nothing
changes.
-/
theorem runToLine_detour (watched : WatchedSession) (target : Nat)
    (active : watched.session.status = .active) :
    let session := watched.session
    let run := Command.run session (.runToLine target)
    (session.hasLine target = true →
      run.answer =
          (Command.run (session.after [.addBreakpoint target]) (.forward .continue)).answer ∧
        watched.after [.command (.runToLine target)] =
          watched.after ((session.detour target).map .command) ∧
        watched.calls [.command (.runToLine target)] =
          watched.calls ((session.detour target).map .command) ∧
        run.event.toList = session.eventsOf (session.detour target) ∧
        run.session.breakpoints = session.breakpoints ∧
        ((∃ stop, IsLeast (session.stopsFor target) stop ∧
            run = (session.breaking stop).map fun answer => .ok (.report answer)) ∨
          (session.stopsFor target = ∅ ∧
            run = session.finish.map fun answer => .ok (.report answer))) ∧
        (session.index < session.trace.length →
          session.stopsFor target =
            { later | session.index < later ∧ ∃ line, session.trace[later]? = some line ∧
              (line = target ∨ line ∈ session.breakpoints.toList) })) ∧
    (session.hasLine target = false →
      run = session.refuse (.invalidLine target session.source.length) ∧
        watched.after [.command (.runToLine target)] = watched ∧
        watched.calls [.command (.runToLine target)] = []) := by
  intro session run
  constructor
  · intro inSource
    obtain ⟨sessions, events⟩ := detour_agrees active inSource
    obtain ⟨same, calls⟩ := WatchedSession.map_command_congr sessions events
    have continued : run = _ := run_runToLine active inSource
    refine ⟨?_, same, calls, ?_, ?_, runToLine_stops active inSource, stopsFor_of_inside⟩
    · rw [continued, after_cons, run_addBreakpoint inSource, after_nil]
      rfl
    · rw [← events, eventsOf_cons]
      exact (List.append_nil _).symm
    · rw [continued]
      rfl
  · intro outside
    have refused : run = session.refuse (.invalidLine target session.source.length) :=
      congrArg (Turn.map (Except.map Reply.report))
        (runToLine_eq_refuseLine active (Bool.eq_false_iff.mp outside))
    have settled : watched.settle run = ([], watched) := by
      rw [refused]
      rfl
    exact ⟨refused, congrArg Prod.snd settled,
      (List.append_nil _).trans (congrArg Prod.fst settled)⟩

/-- A run out of a loop, which an earlier breakpoint stops, while an observer breaks down. -/
theorem runToLine_detour_in_a_loop :
    let session := (new {}).after [.start "a\nb\nc" [1, 2, 1, 2, 3] [2] none]
    let watched : WatchedSession :=
      { session
        observers := { next := 1, entries := [(0, { react := fun _ _ => .panicked })] } }
    session.status = .active ∧
      (Command.run session (.runToLine 3)).session.index = 1 ∧
      watched.after [.command (.runToLine 3)] =
        watched.after
          [.command (.addBreakpoint 3), .command (.forward .continue),
            .command (.removeBreakpoint 3)] := by
  intro session watched
  have active : session.status = .active := by decide +kernel
  have laws := (runToLine_detour watched 3 active).1 (by decide +kernel)
  have isNew : session.detour 3 = [.addBreakpoint 3, .forward .continue, .removeBreakpoint 3] := by
    decide +kernel
  have same := laws.2.1
  rw [isNew] at same
  exact ⟨active, by decide +kernel, same⟩

end Playback.Session
