import Playback.Proofs.Session.Consistency

/-!
# Going back undoes a movement, and moving again redoes it

A movement puts a visit before the history, and going back takes it off again.  What can
be lost between the two is the oldest visit: a history that was already as long as the settings
allow has to make room.  A limit of one leaves no room at all, and there going back never moves.

Moving again after going back leads to the very session that the first movement led to,
because the oldest visit would have been forgotten anyway.
-/

namespace Playback.Session

/-- The session without the oldest visit if there is no room for one visit more. -/
def withRoom (session : Session) : Session :=
  { session with
    history :=
      if session.settings.maxHistory = 0 ∨
          session.history.length < session.settings.maxHistory then
        session.history
      else
        session.history.dropLast }

/--
A movement that going back undoes, but for the oldest visit if there was no room for it, and
that leads to the same session again afterwards.
-/
structure Reversible (session : Session) (move : Session → Session) : Prop where
  outcome : (move session).stepBack.answer.outcome = .active
  undone : (move session).stepBack.session = session.withRoom
  redone : move (move session).stepBack.session = move session

variable {session : Session}

/-- A bounded history with a visit put before it keeps that visit and what there is room for. -/
theorem keepVisits_cons (latest : Visit)
    (bounded : session.settings.maxHistory ≠ 0 →
      session.history.length ≤ session.settings.maxHistory) :
    keepVisits session.settings (latest :: session.history) =
      latest :: session.withRoom.history := by
  rw [keepVisits, withRoom]
  split
  case isTrue unlimited => rw [if_pos (Or.inl unlimited)]
  case isFalse limited =>
    obtain ⟨room, limit⟩ := Nat.exists_eq_succ_of_ne_zero limited
    have short := bounded limited
    rw [limit, List.take_succ_cons]
    congr 1
    split
    case isTrue fits =>
      apply List.take_of_length_le
      omega
    case isFalse full =>
      have length : session.history.length = room + 1 := by omega
      rw [List.dropLast_eq_take, length, Nat.add_sub_cancel]

/-- With room for two visits, making room for one more keeps the current one. -/
theorem withRoom_cons {here : Visit} {older : List Visit}
    (room : session.settings.maxHistory ≠ 1) (visited : session.history = here :: older) :
    ∃ kept, session.withRoom.history = here :: kept := by
  rw [withRoom, visited]
  dsimp only
  split
  case isTrue => exact ⟨older, rfl⟩
  case isFalse full =>
    cases older with
    | nil =>
        rw [List.length_singleton] at full
        omega
    | cons previous older => exact ⟨(previous :: older).dropLast, rfl⟩

/-- Making room twice before the same visit forgets no more than making room once. -/
theorem movedTo_withRoom (loaded : session.Loaded) (target : Nat) :
    session.withRoom.movedTo target = session.movedTo target := by
  have first := keepVisits_cons (session.visitAt target) loaded.bounded
  have second : keepVisits session.settings (session.visitAt target :: session.withRoom.history) =
      session.visitAt target :: session.withRoom.history := by
    rw [← first, keepVisits, keepVisits]
    split
    · rfl
    · rw [List.take_take, Nat.min_self]
  have same : session.withRoom.movedTo target =
      { session.movedTo target with
        history :=
          keepVisits session.settings (session.visitAt target :: session.withRoom.history) } :=
    rfl
  rw [same, second, ← first]
  rfl

/-- The latest visit is found where the session stands. -/
theorem Loaded.found_here {current : Visit} {older : List Visit} (loaded : session.Loaded)
    (visited : session.history = current :: older) :
    Recording.nth session.trace current.line current.rank = .ok session.index := by
  obtain ⟨trail, along⟩ := loaded.trail
  have named := along.named
  rw [visited] at named
  cases trail with
  | nil => cases named
  | cons here rest =>
      obtain rfl : here = session.index := Option.some.inj along.current
      exact (List.cons.inj named).1

/-- With room for two visits, going back from a movement finds the visit it started from. -/
theorem Loaded.stepBack_movedTo {target : Nat} (loaded : session.Loaded)
    (active : session.status = .active) (room : session.settings.maxHistory ≠ 1) :
    (session.movedTo target).stepBack.answer.outcome = .active ∧
      (session.movedTo target).stepBack.session = session.withRoom := by
  obtain ⟨trail, along⟩ := loaded.trail
  obtain ⟨here, older, visited⟩ := List.exists_cons_of_ne_nil along.history_ne_nil
  obtain ⟨kept, history⟩ := withRoom_cons room visited
  have moved : (session.movedTo target).history = session.visitAt target :: here :: kept := by
    rw [movedTo, keepVisits_cons _ loaded.bounded, history]
  have found : Recording.nth (session.movedTo target).trace here.line here.rank =
      .ok session.index := loaded.found_here visited
  have activeAfter : (session.movedTo target).status = .active := active
  rw [stepBack_eq_of_found activeAfter moved found]
  refine ⟨rfl, ?_⟩
  calc
    (session.movedTo target).backAt here kept session.index =
        { session with history := here :: kept } := rfl
    _ = session.withRoom := by
        rw [← history]
        rfl

/-- A movement that lands on the same index from where it leads back to is reversible. -/
theorem Loaded.reversible {move : Session → Session} {target : Nat} (loaded : session.Loaded)
    (active : session.status = .active) (room : session.settings.maxHistory ≠ 1)
    (moves : move session = session.movedTo target)
    (movesAgain : move session.withRoom = session.withRoom.movedTo target) :
    session.Reversible move := by
  obtain ⟨outcome, undone⟩ := loaded.stepBack_movedTo active room
  rw [← moves] at outcome undone
  refine ⟨outcome, undone, ?_⟩
  rw [undone, movesAgain, movedTo_withRoom loaded, moves]

theorem session_perform_of_moved {action : Action} {target : Nat}
    (active : session.status = .active)
    (lands : session.course.land action session.index = .moved target) :
    (session.perform action).session = session.movedTo target := by
  rw [perform, if_pos active, lands]
  rfl

/-- Only an action that lands on an index changes the index. -/
theorem lands_of_index_perform_ne {action : Action}
    (moves : (session.perform action).session.index ≠ session.index) :
    ∃ target, session.course.land action session.index = .moved target := by
  rcases session.perform_cases action with
    ⟨_, same⟩ | ⟨_, ⟨target, lands, _⟩ | ⟨_, same⟩ | ⟨_, _, same⟩⟩
  · exact (moves (by rw [same]; rfl)).elim
  · exact ⟨target, lands⟩
  · exact (moves (by rw [same]; rfl)).elim
  · exact (moves (by rw [same]; rfl)).elim

theorem Loaded.reversible_perform {action : Action} (loaded : session.Loaded)
    (active : session.status = .active) (room : session.settings.maxHistory ≠ 1)
    (moves : (session.perform action).session.index ≠ session.index) :
    session.Reversible fun session => (session.perform action).session := by
  obtain ⟨target, lands⟩ := lands_of_index_perform_ne moves
  have activeAgain : session.withRoom.status = .active := active
  have landsAgain :
      session.withRoom.course.land action session.withRoom.index = .moved target := lands
  exact loaded.reversible active room (session_perform_of_moved active lands)
    (session_perform_of_moved activeAgain landsAgain)

/-- Running to a line moves like a continue with that line among the breakpoints. -/
theorem session_runToLine_of_moved {line target : Nat} (active : session.status = .active)
    (inSource : session.hasLine line = true)
    (lands : { session.course with breakpoints := session.breakpoints.insert line }.land
      .continue session.index = .moved target) :
    (session.runToLine line).session = session.movedTo target := by
  have activeMarked :
      (session.withBreakpoints (session.breakpoints.insert line)).status = .active := active
  rw [runToLine_eq active inSource]
  dsimp only
  rw [session_perform_of_moved activeMarked lands]
  rfl

theorem lands_of_index_runToLine_ne {line : Nat} (active : session.status = .active)
    (inSource : session.hasLine line = true)
    (moves : (session.runToLine line).session.index ≠ session.index) :
    ∃ target,
      { session.course with breakpoints := session.breakpoints.insert line }.land
        .continue session.index = .moved target := by
  rw [runToLine_eq active inSource] at moves
  exact lands_of_index_perform_ne moves

theorem Loaded.reversible_runToLine {line : Nat} (loaded : session.Loaded)
    (active : session.status = .active) (room : session.settings.maxHistory ≠ 1)
    (inSource : session.hasLine line = true)
    (moves : (session.runToLine line).session.index ≠ session.index) :
    session.Reversible fun session => (session.runToLine line).session := by
  obtain ⟨target, lands⟩ := lands_of_index_runToLine_ne active inSource moves
  have activeAgain : session.withRoom.status = .active := active
  have inSourceAgain : session.withRoom.hasLine line = true := inSource
  exact loaded.reversible active room (session_runToLine_of_moved active inSource lands)
    (session_runToLine_of_moved activeAgain inSourceAgain lands)

/-- Where only the current visit is remembered, going back does nothing. -/
theorem Consistent.stepBack_of_one (consistent : session.Consistent)
    (one : session.settings.maxHistory = 1) :
    session.stepBack.session = session ∧ session.stepBack.event = none := by
  rcases consistent.stepBack_cases with
    ⟨_, same⟩ | ⟨_, _, same⟩ | ⟨active, current, previous, older, index, visited, _, _⟩
  · rw [same]
    exact ⟨rfl, rfl⟩
  · rw [same]
    exact ⟨rfl, rfl⟩
  · have bounded := (consistent.loaded_of_active active).bounded
    rw [one, visited, List.length_cons, List.length_cons] at bounded
    omega

/--
In every reachable session that can be moved and remembers more than one visit, each forward action
and each run to a line that moves is undone by going back and redone by moving again.  Where the
settings allow one visit, going back changes nothing.
-/
theorem undo_redo_after (settings : EngineSettings) (commands : List Command) :
    let session := (new settings).after commands
    (settings.maxHistory ≠ 1 → session.status = .active →
      (∀ action, (session.perform action).session.index ≠ session.index →
        session.Reversible fun session => (session.perform action).session) ∧
      ∀ line, session.hasLine line = true →
        (session.runToLine line).session.index ≠ session.index →
          session.Reversible fun session => (session.runToLine line).session) ∧
    (settings.maxHistory = 1 →
      session.stepBack.session = session ∧ session.stepBack.event = none) := by
  intro session
  have consistent : session.Consistent := consistent_after settings commands
  have limit : session.settings = settings := settings_after (new settings) commands
  constructor
  · intro room active
    rw [← limit] at room
    have loaded := consistent.loaded_of_active active
    exact ⟨fun action moves => loaded.reversible_perform active room moves,
      fun line inSource moves => loaded.reversible_runToLine active room inSource moves⟩
  · intro one
    rw [← limit] at one
    exact consistent.stepBack_of_one one

/-- A loop at the limit: the lines repeat, and the oldest visit has to make room. -/
theorem undo_redo_in_a_loop :
    let session := (new { maxHistory := 2 }).after
      [.start "a\nb\nc" [1, 2, 1, 2, 3] [] none, .forward .step, .forward .step]
    session.history = [⟨1, 1⟩, ⟨2, 0⟩] ∧
      (session.Reversible fun session => (session.perform .step).session) ∧
      session.Reversible fun session => (session.runToLine 3).session := by
  have laws := (undo_redo_after { maxHistory := 2 }
    [.start "a\nb\nc" [1, 2, 1, 2, 3] [] none, .forward .step, .forward .step]).1
    (by decide) (by decide +kernel)
  refine ⟨by decide +kernel, ?_, ?_⟩
  · exact laws.1 .step (by decide +kernel)
  · exact laws.2 3 (by decide +kernel) (by decide +kernel)

end Playback.Session
