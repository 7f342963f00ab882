import Playback.Command.Basic
import Playback.Proofs.Stepping.LineSet

/-!
# What a command can do to a session

Ten commands change a session, but there are only seven changes: none at all, a fresh start, a
movement forward, a movement back, the discovery that there is no way back, the end, and
other breakpoints.  The main statement classifies every command by them, together with the event
that announces it.  Whatever holds of sessions throughout is then shown for the seven
changes and for nothing else.
-/

namespace Playback.Session

/-- The session that starts on a source and a recording with known frames. -/
def startedOn (session : Session) (source : List String) (lines : List Nat)
    (frames : List Frame) (breakpoints : List Nat) : Session :=
  { session with
    source
    scopes := ScopeTable.ofLines session.settings.tabWidth source
    trace := lines
    frames
    depths := frames.map (·.depth)
    status := .active
    index := 0
    history := [{ line := lines.headD 0, rank := 0 }]
    breakpoints := LineSet.ofList breakpoints }

/-- The session with other breakpoints. -/
def withBreakpoints (session : Session) (breakpoints : LineSet) : Session :=
  { session with breakpoints }

/-- The visit of an index: its line, and how many earlier positions hold that line. -/
def visitAt (session : Session) (index : Nat) : Visit :=
  let line := session.trace[index]?.getD 0
  { line, rank := Recording.rankAt session.trace line index }

/-- The session after a forward movement. -/
def movedTo (session : Session) (target : Nat) : Session :=
  { session with
    index := target
    history := keepVisits session.settings (session.visitAt target :: session.history) }

/-- The session that stands on an earlier visit, with the visits older than that left. -/
def backAt (session : Session) (previous : Visit) (older : List Visit) (index : Nat) :
    Session :=
  { session with history := previous :: older, index }

/-- A change of a session, with the event that announces it. -/
inductive Change (session : Session) : Option Event → Session → Prop
  | unchanged : Change session none session
  | started {source : List String} {recording : Recording} {frames : List Frame}
      {breakpoints : List Nat}
      (nonempty : recording.lines ≠ [])
      (valid : firstMissing? source.length breakpoints = none)
      (framed :
        recording.frames (ScopeTable.ofLines session.settings.tabWidth source) = .ok frames) :
      Change session
        (some { kind := .start, line := recording.lines.headD 0, index := 0 })
        (session.startedOn source recording.lines frames breakpoints)
  | moved {action : Action} {breakpoints : LineSet} {kind : EventKind} {target : Nat}
      (active : session.status = .active)
      (lands : { session.course with breakpoints }.land action session.index = .moved target)
      (forward : kind = .step ∨ kind = .breakpoint) :
      Change session
        (some { kind, line := (session.visitAt target).line, index := target })
        (session.movedTo target)
  | returned {current previous : Visit} {older : List Visit} {index : Nat}
      (active : session.status = .active)
      (visited : session.history = current :: previous :: older)
      (found : Recording.nth session.trace previous.line previous.rank = .ok index) :
      Change session
        (some { kind := .stepBack, line := previous.line, index })
        (session.backAt previous older index)
  | lost {current previous : Visit} {older : List Visit} {missing : MissingLine}
      (active : session.status = .active)
      (visited : session.history = current :: previous :: older)
      (absent : Recording.nth session.trace previous.line previous.rank = .error missing) :
      Change session none { session with history := previous :: older, status := .error }
  | completed (active : session.status = .active) :
      Change session (some (session.announce .complete)) { session with status := .complete }
  | marked {breakpoints : LineSet}
      (valid : ∀ line ∈ breakpoints.toList,
        line ∈ session.breakpoints.toList ∨ session.hasLine line = true) :
      Change session none (session.withBreakpoints breakpoints)

variable {session : Session}

/-! ## One request at a time -/

/-- A start is refused, or it starts on a recording that has positions and frames. -/
theorem restart_cases (session : Session) (source : String) (recording : Recording)
    (breakpoints : List Nat) :
    (∃ refused, session.restart source recording breakpoints = session.refuse refused) ∨
      ∃ frames,
        let lines := (Text.lines source.toList).map String.ofList
        let started := session.startedOn lines recording.lines frames breakpoints
        recording.lines ≠ [] ∧
          firstMissing? lines.length breakpoints = none ∧
          recording.frames (ScopeTable.ofLines session.settings.tabWidth lines) = .ok frames ∧
          session.restart source recording breakpoints =
            { answer := .ok (started.report (some (recording.lines.headD 0)) .active)
              session := started
              event := some
                { kind := .start, line := recording.lines.headD 0, index := 0 } } := by
  unfold restart
  split
  case h_1 => exact Or.inl ⟨_, rfl⟩
  case h_2 first rest positions =>
    dsimp only
    split
    case h_1 line _ => exact Or.inl ⟨_, rfl⟩
    case h_2 valid =>
      split
      case h_1 mismatch _ => exact Or.inl ⟨_, rfl⟩
      case h_2 frames framed =>
        refine Or.inr ⟨frames, ?_, valid, framed, ?_⟩
        · simp [positions]
        · simp [positions, startedOn, announce, lineHere?]

/-- A start looks at nothing of the earlier session but its settings. -/
theorem restart_of_settings {left right : Session} (same : left.settings = right.settings)
    (source : String) (recording : Recording) (breakpoints : List Nat) :
    (∃ refused,
      left.restart source recording breakpoints = left.refuse refused ∧
        right.restart source recording breakpoints = right.refuse refused) ∨
      ∃ report,
        (left.restart source recording breakpoints).answer = .ok report ∧
          right.restart source recording breakpoints =
            left.restart source recording breakpoints := by
  unfold restart
  split
  case h_1 => exact Or.inl ⟨_, rfl, rfl⟩
  case h_2 first rest _ =>
    dsimp only
    split
    case h_1 line _ => exact Or.inl ⟨_, rfl, rfl⟩
    case h_2 =>
      rw [same]
      split
      case h_1 mismatch _ => exact Or.inl ⟨_, rfl, rfl⟩
      case h_2 frames _ => exact Or.inr ⟨_, rfl, rfl⟩

/--
A forward action leaves an inactive session alone.  An active one moves where the action lands, ends
where nothing lies ahead, and where no call is open ends or stays as the settings say.
-/
theorem perform_cases (session : Session) (action : Action) :
    (session.status ≠ .active ∧ session.perform action = session.idle) ∨
      (session.status = .active ∧
        ((∃ target,
            session.course.land action session.index = .moved target ∧
              session.perform action = session.advance action target) ∨
          ((session.course.land action session.index = .pastEnd ∨
              session.course.land action session.index = .topLevel ∧
                session.settings.topLevelStepOut = .complete) ∧
            session.perform action = session.finish) ∨
          (session.course.land action session.index = .topLevel ∧
            session.settings.topLevelStepOut = .stay ∧
              session.perform action = session.stay))) := by
  by_cases active : session.status = .active
  · refine Or.inr ⟨active, ?_⟩
    rw [perform, if_pos active]
    cases lands : session.course.land action session.index with
    | moved target => exact Or.inl ⟨target, rfl, rfl⟩
    | pastEnd => exact Or.inr (Or.inl ⟨Or.inl rfl, rfl⟩)
    | topLevel =>
        cases policy : session.settings.topLevelStepOut with
        | stay => exact Or.inr (Or.inr ⟨rfl, rfl, rfl⟩)
        | complete => exact Or.inr (Or.inl ⟨Or.inr ⟨rfl, rfl⟩, rfl⟩)
  · exact Or.inl ⟨active, by rw [perform, if_neg active]⟩

/-- A forward action touches the position, the visits and the status of a session, nothing else. -/
theorem exists_session_perform_eq (session : Session) (action : Action) :
    ∃ status index history,
      (session.perform action).session = { session with status, index, history } := by
  rcases session.perform_cases action with
    ⟨_, same⟩ | ⟨_, ⟨target, _, same⟩ | ⟨_, same⟩ | ⟨_, _, same⟩⟩ <;>
    rw [same] <;> exact ⟨_, _, _, rfl⟩

theorem breakpoints_perform (session : Session) (action : Action) :
    (session.perform action).session.breakpoints = session.breakpoints := by
  obtain ⟨_, _, _, same⟩ := session.exists_session_perform_eq action
  rw [same]

theorem hasLine_perform (session : Session) (action : Action) (line : Nat) :
    (session.perform action).session.hasLine line = session.hasLine line := by
  obtain ⟨_, _, _, same⟩ := session.exists_session_perform_eq action
  rw [same]
  rfl

theorem withBreakpoints_eq_self {breakpoints : LineSet}
    (same : session.breakpoints = breakpoints) :
    session.withBreakpoints breakpoints = session := by
  subst same
  rfl

/-- Taking the line of a movement out of the breakpoints again restores them. -/
theorem restored {α : Type} {turn : Turn α} {target : Nat}
    (kept : turn.session.breakpoints = session.breakpoints.insert target) :
    (if session.breakpoints.contains target then turn else turn.erasing target) =
      { turn with session := turn.session.withBreakpoints session.breakpoints } := by
  cases known : session.breakpoints.contains target with
  | true =>
      rw [LineSet.insert_of_contains known] at kept
      rw [if_pos rfl, withBreakpoints_eq_self kept]
  | false =>
      have erased : turn.session.breakpoints.erase target = session.breakpoints := by
        rw [kept, LineSet.erase_insert known]
      rw [if_neg Bool.false_ne_true, Turn.erasing, erased]
      rfl

/-- Running to a line is a continue with one more breakpoint, which is gone afterwards. -/
theorem runToLine_eq {target : Nat} (active : session.status = .active)
    (inSource : session.hasLine target = true) :
    session.runToLine target =
      let turn :=
        (session.withBreakpoints (session.breakpoints.insert target)).perform .continue
      { answer := .ok turn.answer
        session := turn.session.withBreakpoints session.breakpoints
        event := turn.event } := by
  rw [runToLine, if_pos active, if_pos inSource]
  exact congrArg (Turn.map Except.ok)
    (restored (breakpoints_perform
      (session.withBreakpoints (session.breakpoints.insert target)) .continue))

/-- An active session refuses to run to a line that its source lacks. -/
theorem runToLine_eq_refuseLine {target : Nat} (active : session.status = .active)
    (outside : ¬session.hasLine target = true) :
    session.runToLine target = session.refuseLine target := by
  rw [runToLine, if_pos active, if_neg outside]

/-- Going back to an earlier visit that is found. -/
theorem stepBack_eq_of_found {current previous : Visit} {older : List Visit} {index : Nat}
    (active : session.status = .active)
    (visited : session.history = current :: previous :: older)
    (found : Recording.nth session.trace previous.line previous.rank = .ok index) :
    session.stepBack =
      { answer := (session.backAt previous older index).report (some previous.line) .active
        session := session.backAt previous older index
        event := some { kind := .stepBack, line := previous.line, index } } := by
  rw [stepBack, if_pos active, visited]
  dsimp only
  rw [found]
  rfl

/-- Without an earlier visit there is nothing to go back to. -/
theorem stepBack_eq_stay (active : session.status = .active)
    (single : session.history.length ≤ 1) : session.stepBack = session.stay := by
  rw [stepBack, if_pos active]
  split
  case h_1 current previous older visited =>
    rw [visited] at single
    simp at single
  case h_2 => rfl

/--
Going back leaves an inactive session alone, and one without an earlier visit where it is.
Otherwise the earlier visit is looked up.
-/
theorem stepBack_cases (session : Session) :
    (session.status ≠ .active ∧ session.stepBack = session.idle) ∨
      (session.status = .active ∧ session.history.length ≤ 1 ∧
        session.stepBack = session.stay) ∨
      (session.status = .active ∧ ∃ current previous older,
        session.history = current :: previous :: older ∧
          ((∃ index,
              Recording.nth session.trace previous.line previous.rank = .ok index ∧
                session.stepBack =
                  { answer :=
                      (session.backAt previous older index).report (some previous.line) .active
                    session := session.backAt previous older index
                    event := some { kind := .stepBack, line := previous.line, index } }) ∨
            ∃ missing,
              Recording.nth session.trace previous.line previous.rank = .error missing ∧
                session.stepBack =
                  breakDown { session with history := previous :: older })) := by
  by_cases active : session.status = .active
  · refine Or.inr ?_
    rcases visited : session.history with _ | ⟨current, _ | ⟨previous, older⟩⟩
    · exact Or.inl ⟨active, by simp, stepBack_eq_stay active (by simp [visited])⟩
    · exact Or.inl ⟨active, by simp, stepBack_eq_stay active (by simp [visited])⟩
    · refine Or.inr ⟨active, current, previous, older, rfl, ?_⟩
      cases found : Recording.nth session.trace previous.line previous.rank with
      | ok index => exact Or.inl ⟨index, rfl, stepBack_eq_of_found active visited found⟩
      | error missing =>
          refine Or.inr ⟨missing, rfl, ?_⟩
          rw [stepBack, if_pos active, visited]
          dsimp only
          rw [found]
  · exact Or.inl ⟨active, by rw [stepBack, if_neg active]⟩

/-- A breakpoint is flipped by taking it out and, where it was not set, putting it in. -/
theorem toggleBreakpoint_eq {line : Nat} (inSource : session.hasLine line = true) :
    session.toggleBreakpoint line =
      { answer := .ok !session.breakpoints.contains line
        session := session.withBreakpoints
          (if session.breakpoints.contains line then
            session.breakpoints.erase line
          else
            session.breakpoints.insert line) } := by
  rw [toggleBreakpoint, removeBreakpoint, if_pos inSource]
  dsimp only
  cases known : session.breakpoints.contains line with
  | true => rfl
  | false =>
      rw [LineSet.erase_of_absent known]
      dsimp only
      rw [addBreakpoint, if_pos inSource, known]
      rfl

/-! ## Requests as changes -/

theorem restart_change (session : Session) (source : String) (recording : Recording)
    (breakpoints : List Nat) :
    session.Change (session.restart source recording breakpoints).event
      (session.restart source recording breakpoints).session := by
  rcases session.restart_cases source recording breakpoints with
    ⟨refused, same⟩ | ⟨frames, nonempty, valid, framed, same⟩
  · rw [same]
    exact .unchanged
  · rw [same]
    exact .started nonempty valid framed

/-- A forward action is a change, whatever the breakpoints are for the time it takes. -/
theorem perform_change (session : Session) (breakpoints : LineSet) (action : Action) :
    session.Change ((session.withBreakpoints breakpoints).perform action).event
      (((session.withBreakpoints breakpoints).perform action).session.withBreakpoints
        session.breakpoints) := by
  rcases (session.withBreakpoints breakpoints).perform_cases action with
    ⟨_, same⟩ | ⟨active, ⟨target, lands, same⟩ | ⟨_, same⟩ | ⟨_, _, same⟩⟩
  · rw [same]
    exact .unchanged
  · rw [same]
    have kind : ∀ moved line, moveKind moved action line = .step ∨
        moveKind moved action line = .breakpoint := by
      intro moved line
      rw [moveKind]
      split
      · exact Or.inr rfl
      · exact Or.inl rfl
    exact .moved active lands (kind _ _)
  · rw [same]
    exact .completed active
  · rw [same]
    exact .unchanged

theorem runToLine_change (session : Session) (target : Nat) :
    session.Change (session.runToLine target).event (session.runToLine target).session := by
  by_cases active : session.status = .active
  · by_cases inSource : session.hasLine target = true
    · rw [runToLine_eq active inSource]
      exact session.perform_change _ .continue
    · rw [runToLine_eq_refuseLine active inSource]
      exact .unchanged
  · rw [runToLine, if_neg active]
    exact .unchanged

theorem stepBack_change (session : Session) :
    session.Change session.stepBack.event session.stepBack.session := by
  rcases session.stepBack_cases with
    ⟨_, same⟩ | ⟨_, _, same⟩ |
    ⟨active, current, previous, older, visited, ⟨index, found, same⟩ | ⟨missing, absent, same⟩⟩
  · rw [same]
    exact .unchanged
  · rw [same]
    exact .unchanged
  · rw [same]
    exact .returned active visited found
  · rw [same]
    exact .lost active visited absent

theorem addBreakpoint_change (session : Session) (line : Nat) :
    session.Change (session.addBreakpoint line).event (session.addBreakpoint line).session := by
  rw [addBreakpoint]
  split
  case isTrue inSource =>
    refine .marked fun member known => ?_
    rcases LineSet.mem_toList_insert.mp known with rfl | old
    · exact Or.inr inSource
    · exact Or.inl old
  case isFalse => exact .unchanged

theorem removeBreakpoint_change (session : Session) (line : Nat) :
    session.Change (session.removeBreakpoint line).event
      (session.removeBreakpoint line).session := by
  rw [removeBreakpoint]
  split
  case isTrue =>
    exact .marked fun member known => Or.inl (LineSet.mem_toList_erase.mp known).1
  case isFalse => exact .unchanged

theorem toggleBreakpoint_change (session : Session) (line : Nat) :
    session.Change (session.toggleBreakpoint line).event
      (session.toggleBreakpoint line).session := by
  by_cases inSource : session.hasLine line = true
  · rw [toggleBreakpoint_eq inSource]
    refine .marked fun member known => ?_
    split at known
    · exact Or.inl (LineSet.mem_toList_erase.mp known).1
    · rcases LineSet.mem_toList_insert.mp known with rfl | old
      · exact Or.inr inSource
      · exact Or.inl old
  · rw [toggleBreakpoint, removeBreakpoint, if_neg inSource]
    exact .unchanged

/-- Every command makes one of the changes, and its event announces that one. -/
theorem run_change (session : Session) (command : Command) :
    session.Change (command.run session).event (command.run session).session := by
  cases command with
  | start source trace breakpoints depths => exact session.restart_change source _ breakpoints
  | forward action =>
      have change := session.perform_change session.breakpoints action
      rw [withBreakpoints_eq_self rfl,
        withBreakpoints_eq_self (session.breakpoints_perform action)] at change
      exact change
  | stepBack => exact session.stepBack_change
  | addBreakpoint line => exact session.addBreakpoint_change line
  | removeBreakpoint line => exact session.removeBreakpoint_change line
  | toggleBreakpoint line => exact session.toggleBreakpoint_change line
  | clearBreakpoints => exact .marked (by simp)
  | runToLine line => exact session.runToLine_change line
  | getState => exact .unchanged
  | getScopeInfo line => exact .unchanged

end Playback.Session
