import Playback.Proofs.Session.Consistency

/-!
# A bounded history forgets and does not lie

A limit on the history makes a session forget its oldest visits and changes nothing else.  The
main statement runs a session without a limit and one with a limit side by side.  Their answers and
events are equal, and so is all that they hold except that of the visits of the first the second
has only the latest ones.

This goes on until the two are told to go back and only the first still knows where to.  A movement
forward puts the same visit before both histories, and going back takes it off both; so the shorter
history stays the beginning of the longer one, and what it still holds is found at the same index.
-/

namespace Playback

/-- The reply without what a snapshot tells of earlier visits. -/
def Reply.withoutPast : Reply → Reply
  | .state snapshot => .state { snapshot with history := [], canStepBack := false }
  | reply => reply

namespace Session

/-- The session as it would be under another limit on its history, with other visits left. -/
def remembering (session : Session) (limit : Nat) (visits : List Visit) : Session :=
  { session with
    settings := { session.settings with maxHistory := limit }
    history := visits }

/-- The visits that are kept under a limit: the latest of all, at least one and at most `limit`. -/
structure Recent (limit : Nat) (kept all : List Visit) : Prop where
  latest : kept <+: all
  nonempty : all ≠ [] → kept ≠ []
  bounded : kept.length ≤ limit

/-- Two sessions of which only the first still knows a visit to go back to. -/
def Forgot (whole part : Session) : Prop :=
  whole.status = .active ∧ part.history.length ≤ 1 ∧ 1 < whole.history.length

instance (whole part : Session) : Decidable (Forgot whole part) :=
  inferInstanceAs (Decidable (_ ∧ _ ∧ _))

end Session

/-- The turn as it would be under another limit, with other visits left afterwards. -/
def Turn.remembering {α : Type} (turn : Turn α) (limit : Nat) (visits : List Visit) : Turn α :=
  { turn with session := turn.session.remembering limit visits }

/-- A turn under a limit that differs from one without only in the visits that are kept. -/
def Turn.RecalledBy {α : Type} (limit : Nat) (whole part : Turn α) : Prop :=
  ∃ kept, part = whole.remembering limit kept ∧ Session.Recent limit kept whole.session.history

/--
A turn without a limit on the history and one with a limit.  Their answers are equal but for the
visits that snapshots show; the events are equal; and the sessions afterwards are equal but for the
limit and the visits.  Of the visits the second session has the latest ones, at most as many as the
limit allows, and none exactly if the first has none, which is so until a session was started.
-/
structure Turn.Recalls (limit : Nat) (whole part : Turn (Except SessionError Reply)) :
    Prop where
  answer : part.answer.map Reply.withoutPast = whole.answer.map Reply.withoutPast
  event : part.event = whole.event
  session : part.session = whole.session.remembering limit part.session.history
  recent : Session.Recent limit part.session.history whole.session.history
  unstarted : whole.session.history = [] ↔ whole.session.status = .uninitialized

namespace Session

variable {session : Session} {limit : Nat} {kept all : List Visit}

@[simp]
theorem status_remembering : (session.remembering limit kept).status = session.status :=
  rfl

@[simp]
theorem index_remembering : (session.remembering limit kept).index = session.index :=
  rfl

@[simp]
theorem history_remembering : (session.remembering limit kept).history = kept :=
  rfl

@[simp]
theorem tabWidth_remembering :
    (session.remembering limit kept).settings.tabWidth = session.settings.tabWidth :=
  rfl

@[simp]
theorem topLevelStepOut_remembering :
    (session.remembering limit kept).settings.topLevelStepOut =
      session.settings.topLevelStepOut :=
  rfl

@[simp]
theorem breakpoints_remembering :
    (session.remembering limit kept).breakpoints = session.breakpoints :=
  rfl

@[simp]
theorem course_remembering : (session.remembering limit kept).course = session.course :=
  rfl

@[simp]
theorem hasLine_remembering (line : Nat) :
    (session.remembering limit kept).hasLine line = session.hasLine line :=
  rfl

theorem Recent.singleton (positive : 1 ≤ limit) (visit : Visit) :
    Recent limit [visit] [visit] where
  latest := List.prefix_rfl
  nonempty := fun _ => List.cons_ne_nil _ _
  bounded := positive

/-- One visit more, and only as many kept as the limit allows. -/
theorem Recent.cons (recent : Recent limit kept all) (positive : 1 ≤ limit) (visit : Visit) :
    Recent limit ((visit :: kept).take limit) (visit :: all) where
  latest := (List.take_prefix _ _).trans ((List.prefix_cons_inj visit).mpr recent.latest)
  nonempty := by
    intro _ forgotten
    rcases List.take_eq_nil_iff.mp forgotten with zero | empty
    · exact Nat.ne_of_gt positive zero
    · exact List.cons_ne_nil _ _ empty
  bounded := List.length_take_le _ _

/-- Where two visits are kept, they are the latest two of all. -/
theorem Recent.eq_cons_cons {current previous : Visit} {older : List Visit}
    (recent : Recent limit kept (current :: previous :: older)) (several : 1 < kept.length) :
    ∃ left, kept = current :: previous :: left ∧
      Recent limit (previous :: left) (previous :: older) := by
  obtain ⟨latest, _, bounded⟩ := recent
  rcases kept with _ | ⟨first, _ | ⟨second, left⟩⟩
  · cases several
  · cases several with
    | step impossible => cases impossible
  · obtain ⟨rfl, rest⟩ := List.cons_prefix_cons.mp latest
    obtain ⟨rfl, _⟩ := List.cons_prefix_cons.mp rest
    exact ⟨left, rfl, rest, fun _ => List.cons_ne_nil _ _, Nat.le_of_succ_le bounded⟩

end Session

namespace Turn

open Session

variable {α β : Type} {limit : Nat} {whole part : Turn α}

theorem RecalledBy.map (recalled : RecalledBy limit whole part) (f : α → β) :
    RecalledBy limit (whole.map f) (part.map f) := by
  obtain ⟨kept, rfl, recent⟩ := recalled
  exact ⟨kept, rfl, recent⟩

end Turn

namespace Session

/-! ## One request at a time -/

section Requests

variable {whole : Session} {limit : Nat} {kept : List Visit}
  (recent : Recent limit kept whole.history) (positive : 1 ≤ limit)

include recent

theorem recalled_idle : Turn.RecalledBy limit whole.idle (whole.remembering limit kept).idle :=
  ⟨kept, rfl, recent⟩

theorem recalled_stay : Turn.RecalledBy limit whole.stay (whole.remembering limit kept).stay :=
  ⟨kept, rfl, recent⟩

theorem recalled_finish :
    Turn.RecalledBy limit whole.finish (whole.remembering limit kept).finish :=
  ⟨kept, rfl, recent⟩

theorem recalled_refuse {α : Type} (error : SessionError) :
    Turn.RecalledBy limit (whole.refuse error : Turn (Except SessionError α))
      ((whole.remembering limit kept).refuse error) :=
  ⟨kept, rfl, recent⟩

include positive

/-- A start is refused for the same reason, or it remembers the first position. -/
theorem recalled_restart (source : String) (recording : Recording) (breakpoints : List Nat) :
    Turn.RecalledBy limit (whole.restart source recording breakpoints)
      ((whole.remembering limit kept).restart source recording breakpoints) := by
  unfold restart
  split
  case h_1 => exact recalled_refuse recent _
  case h_2 first rest _ =>
    dsimp only
    split
    case h_1 line _ => exact recalled_refuse recent _
    case h_2 =>
      rw [tabWidth_remembering]
      split
      case h_1 mismatch _ => exact recalled_refuse recent _
      case h_2 frames _ => exact ⟨_, rfl, .singleton positive _⟩

/-- A movement puts the same visit before both histories. -/
theorem recalled_advance (unlimited : whole.settings.maxHistory = 0) (action : Action)
    (target : Nat) :
    Turn.RecalledBy limit (whole.advance action target)
      ((whole.remembering limit kept).advance action target) := by
  have bounded : ∀ visits : List Visit,
      keepVisits (whole.remembering limit kept).settings visits = visits.take limit := by
    intro visits
    exact if_neg (Nat.ne_of_gt positive)
  have unbounded : ∀ visits : List Visit, keepVisits whole.settings visits = visits := by
    intro visits
    exact if_pos unlimited
  refine ⟨(whole.visitAt target :: kept).take limit, ?_, ?_⟩
  · rw [advance, bounded]
    rfl
  · rw [advance, unbounded]
    exact recent.cons positive _

theorem recalled_perform (unlimited : whole.settings.maxHistory = 0) (action : Action) :
    Turn.RecalledBy limit (whole.perform action)
      ((whole.remembering limit kept).perform action) := by
  rw [perform, perform, status_remembering, course_remembering, index_remembering,
    topLevelStepOut_remembering]
  split
  case isTrue =>
    split
    case h_1 target _ => exact recalled_advance recent positive unlimited action target
    case h_2 => exact recalled_finish recent
    case h_3 =>
      split
      case h_1 => exact recalled_stay recent
      case h_2 => exact recalled_finish recent
  case isFalse => exact recalled_idle recent

theorem recalled_runToLine (unlimited : whole.settings.maxHistory = 0) (target : Nat) :
    Turn.RecalledBy limit (whole.runToLine target)
      ((whole.remembering limit kept).runToLine target) := by
  rw [runToLine, runToLine, status_remembering, hasLine_remembering, breakpoints_remembering]
  split
  case isTrue =>
    split
    case isTrue =>
      let marked := whole.withBreakpoints (whole.breakpoints.insert target)
      have recentMarked : Recent limit kept marked.history := recent
      obtain ⟨left, same, recentNext⟩ :=
        recalled_perform recentMarked positive unlimited .continue
      apply Turn.RecalledBy.map
      split
      case isTrue => exact ⟨left, same, recentNext⟩
      case isFalse => exact ⟨left, congrArg (Turn.erasing · target) same, recentNext⟩
    case isFalse => exact recalled_refuse recent _
  case isFalse => exact (recalled_idle recent).map Except.ok

omit positive

/-- Unless the previous visit was forgotten, both sessions go back to it. -/
theorem recalled_stepBack (mindful : ¬Forgot whole (whole.remembering limit kept)) :
    Turn.RecalledBy limit whole.stepBack (whole.remembering limit kept).stepBack := by
  by_cases active : whole.status = .active
  · have activePart : (whole.remembering limit kept).status = .active := active
    rcases Nat.lt_or_ge 1 whole.history.length with several | single
    · have severalKept : 1 < kept.length :=
        Nat.lt_of_not_le fun short => mindful ⟨active, short, several⟩
      rcases visited : whole.history with _ | ⟨current, _ | ⟨previous, older⟩⟩
      · simp [visited] at several
      · simp [visited] at several
      · rw [visited] at recent
        obtain ⟨left, rfl, recentNext⟩ := recent.eq_cons_cons severalKept
        rw [stepBack, stepBack, if_pos active, if_pos activePart, visited]
        dsimp only [history_remembering]
        have sameTrace : (whole.remembering limit (current :: previous :: left)).trace =
            whole.trace := rfl
        rw [sameTrace]
        split
        case h_1 index _ => exact ⟨previous :: left, rfl, recentNext⟩
        case h_2 => exact ⟨previous :: left, rfl, recentNext⟩
    · have singleKept : (whole.remembering limit kept).history.length ≤ 1 :=
        Nat.le_trans recent.latest.length_le single
      rw [stepBack_eq_stay active single, stepBack_eq_stay activePart singleKept]
      exact recalled_stay recent
  · rw [stepBack, stepBack, status_remembering, if_neg active, if_neg active]
    exact recalled_idle recent

end Requests

section Commands

variable {whole : Session} {limit : Nat} {kept : List Visit}

/-- What is alike inside the source stays alike when it is refused outside of it. -/
theorem recalled_inSource {α : Type} {turn other : Turn (Except SessionError α)}
    (recent : Recent limit kept whole.history) (line : Nat)
    (recalled : Turn.RecalledBy limit turn other) :
    Turn.RecalledBy limit (if whole.hasLine line then turn else whole.refuseLine line)
      (if (whole.remembering limit kept).hasLine line then
        other
      else
        (whole.remembering limit kept).refuseLine line) := by
  rw [hasLine_remembering]
  split
  case isTrue => exact recalled
  case isFalse => exact recalled_refuse recent _

theorem recalled_addBreakpoint (recent : Recent limit kept whole.history) (line : Nat) :
    Turn.RecalledBy limit (whole.addBreakpoint line)
      ((whole.remembering limit kept).addBreakpoint line) :=
  recalled_inSource recent line ⟨kept, rfl, recent⟩

theorem recalled_removeBreakpoint (recent : Recent limit kept whole.history) (line : Nat) :
    Turn.RecalledBy limit (whole.removeBreakpoint line)
      ((whole.remembering limit kept).removeBreakpoint line) :=
  recalled_inSource recent line ⟨kept, rfl, recent⟩

theorem recalled_toggleBreakpoint (recent : Recent limit kept whole.history) (line : Nat) :
    Turn.RecalledBy limit (whole.toggleBreakpoint line)
      ((whole.remembering limit kept).toggleBreakpoint line) := by
  by_cases inSource : whole.hasLine line = true
  · have toggles : (whole.remembering limit kept).toggleBreakpoint line = _ :=
      toggleBreakpoint_eq inSource
    rw [toggles, toggleBreakpoint_eq inSource]
    exact ⟨kept, rfl, recent⟩
  · rw [toggleBreakpoint, toggleBreakpoint, removeBreakpoint, removeBreakpoint,
      hasLine_remembering, if_neg inSource, if_neg inSource]
    exact recalled_refuse recent _

/-- Every command but a snapshot comes to the same, unless the visit to go back to was forgotten. -/
theorem recalled_run (recent : Recent limit kept whole.history) (positive : 1 ≤ limit)
    (unlimited : whole.settings.maxHistory = 0) {command : Command}
    (notShown : command ≠ .getState)
    (mindful : command = .stepBack → ¬Forgot whole (whole.remembering limit kept)) :
    Turn.RecalledBy limit (command.run whole) (command.run (whole.remembering limit kept)) := by
  cases command with
  | start source trace breakpoints depths =>
      exact (recalled_restart recent positive source _ breakpoints).map _
  | forward action =>
      exact (recalled_perform recent positive unlimited action).map fun answer =>
        Except.ok (Reply.report answer)
  | stepBack =>
      exact (recalled_stepBack recent (mindful rfl)).map fun answer =>
        Except.ok (Reply.report answer)
  | runToLine line => exact (recalled_runToLine recent positive unlimited line).map _
  | addBreakpoint line =>
      obtain ⟨left, same, recentNext⟩ := recalled_addBreakpoint recent line
      exact ⟨left, congrArg (breakpointTurn Reply.added) same, recentNext⟩
  | removeBreakpoint line =>
      obtain ⟨left, same, recentNext⟩ := recalled_removeBreakpoint recent line
      exact ⟨left, congrArg (breakpointTurn Reply.removed) same, recentNext⟩
  | toggleBreakpoint line =>
      obtain ⟨left, same, recentNext⟩ := recalled_toggleBreakpoint recent line
      exact ⟨left, congrArg (breakpointTurn Reply.toggled) same, recentNext⟩
  | clearBreakpoints => exact ⟨kept, rfl, recent⟩
  | getState => exact (notShown rfl).elim
  | getScopeInfo line => exact ⟨kept, rfl, recent⟩

/-- A session has no visits exactly until it was started. -/
theorem Consistent.history_eq_nil_iff (consistent : whole.Consistent) :
    whole.history = [] ↔ whole.status = .uninitialized := by
  constructor
  · intro empty
    by_contra started
    obtain ⟨trail, along⟩ := (consistent.loaded started).trail
    exact along.history_ne_nil empty
  · intro unstarted
    rw [consistent.untouched unstarted]
    rfl

theorem recalls_of_recalledBy {turn other : Turn (Except SessionError Reply)}
    (recalled : Turn.RecalledBy limit turn other) (consistent : turn.session.Consistent) :
    Turn.Recalls limit turn other := by
  obtain ⟨left, rfl, recent⟩ := recalled
  exact
    { answer := rfl, event := rfl, session := rfl, recent
      unstarted := consistent.history_eq_nil_iff }

/-- One command, given to both sessions, of which the second has not forgotten what it needs. -/
theorem recalls_run (recent : Recent limit kept whole.history) (positive : 1 ≤ limit)
    (unlimited : whole.settings.maxHistory = 0) (consistent : whole.Consistent)
    {command : Command}
    (mindful : command = .stepBack → ¬Forgot whole (whole.remembering limit kept)) :
    Turn.Recalls limit (command.run whole) (command.run (whole.remembering limit kept)) := by
  have consistentNext : (command.run whole).session.Consistent :=
    (whole.run_change command).consistent consistent
  by_cases shown : command = .getState
  · subst shown
    exact
      { answer := rfl, event := rfl, session := rfl, recent
        unstarted := consistent.history_eq_nil_iff }
  · exact recalls_of_recalledBy (recalled_run recent positive unlimited shown mindful)
      consistentNext

end Commands

/-! ## Whole runs -/

/-- Whether no command of a run asks to go back when only the first session still can. -/
def Mindful (whole part : Session) (commands : List Command) : Prop :=
  ∀ position < commands.length, commands[position]? = some .stepBack →
    ¬Forgot (whole.after (commands.take position)) (part.after (commands.take position))

instance (whole part : Session) (commands : List Command) :
    Decidable (Mindful whole part commands) :=
  inferInstanceAs (Decidable (∀ position < commands.length, _))

theorem Mindful.of_cons {whole part : Session} {command : Command} {rest : List Command}
    (mindful : Mindful whole part (command :: rest)) :
    (command = .stepBack → ¬Forgot whole part) ∧
      Mindful (command.run whole).session (command.run part).session rest := by
  constructor
  · rintro rfl
    exact mindful 0 (Nat.zero_lt_succ _) rfl
  · intro position inside back
    exact mindful (position + 1) (Nat.succ_lt_succ inside) back

/-- A mindful run looks alike under the limit and without it, and leaves the sessions alike. -/
theorem recalls_turns {whole : Session} {limit : Nat} {kept : List Visit}
    (recent : Recent limit kept whole.history) (positive : 1 ≤ limit)
    (unlimited : whole.settings.maxHistory = 0) (consistent : whole.Consistent)
    {commands : List Command} (mindful : Mindful whole (whole.remembering limit kept) commands) :
    List.Forall₂ (Turn.Recalls limit) (whole.turns commands)
        ((whole.remembering limit kept).turns commands) ∧
      ∃ left, (whole.remembering limit kept).after commands =
          (whole.after commands).remembering limit left ∧
        Recent limit left (whole.after commands).history := by
  induction commands generalizing whole kept with
  | nil => exact ⟨.nil, kept, rfl, recent⟩
  | cons command rest induction =>
      obtain ⟨mindfulFirst, mindfulRest⟩ := mindful.of_cons
      have first := recalls_run recent positive unlimited consistent mindfulFirst
      have change := whole.run_change command
      rw [first.session] at mindfulRest
      obtain ⟨alike, left⟩ := induction first.recent (change.settings_eq ▸ unlimited)
        (change.consistent consistent) mindfulRest
      rw [turns, turns, after_cons, after_cons]
      rw [← first.session] at alike left
      exact ⟨.cons first alike, left⟩

/-- Where the visit was forgotten, the one session goes back and the other stays. -/
theorem Consistent.index_stepBack_of_forgot {whole part : Session} (consistent : whole.Consistent)
    (forgot : Forgot whole part) (status : part.status = whole.status) :
    part.stepBack.session = part ∧ whole.stepBack.session.index < whole.index := by
  obtain ⟨active, single, several⟩ := forgot
  constructor
  · rw [stepBack_eq_stay (status.trans active) single]
    rfl
  · rcases consistent.stepBack_cases with
      ⟨inactive, _⟩ | ⟨_, alone, _⟩ | ⟨_, current, previous, older, index, _, below, same⟩
    · exact (inactive active).elim
    · exact (Nat.not_lt_of_ge alone several).elim
    · rw [same]
      exact below

/-- Going back tells the sessions apart exactly where the visit was forgotten. -/
theorem index_stepBack_eq_iff {whole : Session} {limit : Nat} {kept : List Visit}
    (recent : Recent limit kept whole.history) (consistent : whole.Consistent) :
    (whole.remembering limit kept).stepBack.session.index = whole.stepBack.session.index ↔
      ¬Forgot whole (whole.remembering limit kept) := by
  constructor
  · intro same forgot
    obtain ⟨stays, below⟩ := consistent.index_stepBack_of_forgot forgot rfl
    rw [stays, index_remembering] at same
    exact Nat.ne_of_gt below same
  · intro mindful
    obtain ⟨left, same, _⟩ := recalled_stepBack recent mindful
    rw [same]
    rfl

/--
The same commands are given to two new sessions with the same settings, except that one has no limit
on its history and the other has one.  Unless the first is told to go back to a visit that the
second has forgotten, all turns are alike: answers and events are equal, and so are the sessions,
but that the second has only the latest of the visits.  After such a run, going back leads both to
the same index exactly if the visit was not forgotten.
-/
theorem turns_recalled (settings : EngineSettings) {limit : Nat} (positive : 1 ≤ limit)
    (commands : List Command)
    (mindful : Mindful (new { settings with maxHistory := 0 })
      (new { settings with maxHistory := limit }) commands) :
    let unlimited := new { settings with maxHistory := 0 }
    let limited := new { settings with maxHistory := limit }
    List.Forall₂ (Turn.Recalls limit) (unlimited.turns commands) (limited.turns commands) ∧
      ((limited.after commands).stepBack.session.index =
          (unlimited.after commands).stepBack.session.index ↔
        ¬Forgot (unlimited.after commands) (limited.after commands)) := by
  intro unlimited limited
  have nothing : Recent limit [] unlimited.history :=
    ⟨List.prefix_rfl, fun visited => (visited rfl).elim, Nat.zero_le _⟩
  obtain ⟨alike, left, same, recent⟩ :=
    recalls_turns nothing positive rfl (consistent_new _) mindful
  have ended : limited.after commands = (unlimited.after commands).remembering limit left := same
  refine ⟨alike, ?_⟩
  rw [ended]
  exact index_stepBack_eq_iff recent (consistent_after _ commands)

/-- A loop under a limit of two, left for a line and gone back once, after which one is
forgotten. -/
theorem turns_recalled_in_a_loop :
    let commands : List Command :=
      [.start "a\nb\nc" [1, 2, 1, 2, 3] [1] none, .forward .step, .forward .continue,
        .runToLine 3, .stepBack, .getState]
    let unlimited := new { maxHistory := 0 }
    let limited := new { maxHistory := 2 }
    Mindful unlimited limited commands ∧
      Forgot (unlimited.after commands) (limited.after commands) ∧
      List.Forall₂ (Turn.Recalls 2) (unlimited.turns commands) (limited.turns commands) := by
  intro commands unlimited limited
  have mindful : Mindful unlimited limited commands := by decide +kernel
  exact ⟨mindful, by decide +kernel, (turns_recalled {} (by decide) commands mindful).1⟩

end Session

end Playback
