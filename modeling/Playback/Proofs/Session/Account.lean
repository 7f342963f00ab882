import Mathlib.Data.List.Infix
import Playback.Proofs.Session.Consistency

/-!
# The events of a session tell its course

A listener who sees nothing of a session but its events can keep an account of it: a stack of
indices and a status.  A start begins a new stack, a movement forward puts its index on the stack,
going back takes the latest index off again, and the end is noted.

The main statement is that this account is right after every command.  Its status is the status
of the session, the latest index on the stack is the current one, and the visits that the
session can go back to are the latest entries of the stack, all of them if the history has no limit.
For this every command has to announce what it does, once and with the right index, and a
command that announces nothing must not have done anything that the account would have to know.
-/

namespace Playback

/-- What a listener knows of a session from its events. -/
structure Account where
  /-- The indices that the session came along since it was started, latest first. -/
  stack : List Nat := []
  status : Status := .uninitialized
  deriving DecidableEq, Repr

namespace Account

/-- The account after one event more; what was known before a start is forgotten. -/
def tell (account : Account) (event : Event) : Account :=
  match event.kind with
  | .start => { stack := [0], status := .active }
  | .step | .breakpoint => { account with stack := event.index :: account.stack }
  | .stepBack => { account with stack := account.stack.tail }
  | .complete => { account with status := .complete }

/-- The account of events that are told one after the other. -/
def ofEvents (events : List Event) : Account :=
  events.foldl tell {}

/--
An account that is right about a session: it knows the status, and the visits of the session lead
along the latest indices of the stack.
-/
structure Fits (account : Account) (session : Session) : Prop where
  status : account.status = session.status
  trail : session.status ≠ .uninitialized →
    ∃ trail, session.Trail trail ∧ trail <+: account.stack ∧
      (session.settings.maxHistory = 0 → trail = account.stack)

end Account

/-- A command to start afresh. -/
def Command.isStart : Command → Bool
  | .start .. => true
  | _ => false

namespace Session

/-- Whether a command starts a session: it asks for a start and is not refused. -/
def startedBy (session : Session) (command : Command) : Bool :=
  command.isStart && (command.run session).answer.isOk

variable {session changed : Session} {event : Option Event} {command : Command}

/-! ## What is announced -/

/-- No forward action announces a start. -/
theorem kind_perform_ne_start (session : Session) (action : Action) {event : Event}
    (announced : (session.perform action).event = some event) : event.kind ≠ .start := by
  rcases session.perform_cases action with
    ⟨_, same⟩ | ⟨_, ⟨target, _, same⟩ | ⟨_, same⟩ | ⟨_, _, same⟩⟩
  · rw [same] at announced
    cases announced
  · rw [same] at announced
    cases announced
    rw [announce, moveKind]
    split <;> exact EventKind.noConfusion
  · rw [same] at announced
    cases announced
    exact EventKind.noConfusion
  · rw [same] at announced
    cases announced

theorem kind_stepBack_ne_start (session : Session) {event : Event}
    (announced : session.stepBack.event = some event) : event.kind ≠ .start := by
  rcases session.stepBack_cases with
    ⟨_, same⟩ | ⟨_, _, same⟩ |
    ⟨_, current, previous, older, _, ⟨index, _, same⟩ | ⟨missing, _, same⟩⟩ <;>
    rw [same] at announced <;> cases announced
  exact EventKind.noConfusion

theorem kind_runToLine_ne_start (session : Session) (target : Nat) {event : Event}
    (announced : (session.runToLine target).event = some event) : event.kind ≠ .start := by
  by_cases active : session.status = .active
  · by_cases inSource : session.hasLine target = true
    · rw [runToLine_eq active inSource] at announced
      exact kind_perform_ne_start _ .continue announced
    · rw [runToLine_eq_refuseLine active inSource] at announced
      cases announced
  · rw [runToLine, if_neg active] at announced
    cases announced

/-- Only a command to start announces a start. -/
theorem kind_run_ne_start {event : Event} (other : command.isStart = false)
    (announced : (command.run session).event = some event) : event.kind ≠ .start := by
  cases command with
  | start source trace breakpoints depths => cases other
  | forward action => exact session.kind_perform_ne_start action announced
  | stepBack => exact session.kind_stepBack_ne_start announced
  | runToLine line => exact session.kind_runToLine_ne_start line announced
  | addBreakpoint line =>
      rw [Command.run, breakpointTurn, Turn.map, addBreakpoint] at announced
      split at announced <;> cases announced
  | removeBreakpoint line =>
      rw [Command.run, breakpointTurn, Turn.map, removeBreakpoint] at announced
      split at announced <;> cases announced
  | toggleBreakpoint line =>
      by_cases inSource : session.hasLine line = true
      · rw [Command.run, toggleBreakpoint_eq inSource] at announced
        cases announced
      · rw [Command.run, toggleBreakpoint, removeBreakpoint, if_neg inSource] at announced
        cases announced
  | clearBreakpoints | getState | getScopeInfo line => cases announced

/-- A start that is refused announces nothing, and one that is accepted announces a start. -/
theorem event_run_of_isStart (session : Session) (start : command.isStart = true) :
    if session.startedBy command then
      ∃ event, (command.run session).event = some event ∧ event.kind = .start
    else
      (command.run session).event = none ∧ (command.run session).session = session := by
  cases command with
  | start source trace breakpoints depths =>
      rcases session.restart_cases source { lines := trace, depths } breakpoints with
        ⟨refused, same⟩ | ⟨frames, _, _, _, same⟩
      · have refusedStart : session.startedBy (.start source trace breakpoints depths) = false := by
          rw [startedBy, Command.run, same]
          rfl
        rw [refusedStart, Command.run, same]
        exact ⟨rfl, rfl⟩
      · have acceptedStart : session.startedBy (.start source trace breakpoints depths) = true := by
          rw [startedBy, Command.run, same]
          rfl
        rw [acceptedStart, Command.run, same]
        exact ⟨_, rfl, rfl⟩
  | _ => cases start

/-- A change other than a start is silent exactly if neither the index nor the status changes. -/
theorem Change.event_eq_none_iff (change : session.Change event changed)
    (consistent : session.Consistent) (other : ∀ told ∈ event, told.kind ≠ .start) :
    event = none ↔ changed.index = session.index ∧ changed.status = session.status := by
  cases change with
  | unchanged => exact ⟨fun _ => ⟨rfl, rfl⟩, fun _ => rfl⟩
  | started _ _ _ => exact (other _ rfl rfl).elim
  | moved active lands _ =>
      obtain ⟨ahead, _⟩ := (consistent.loaded_of_active active).land lands
      simp only [reduceCtorEq, false_iff]
      rintro ⟨same, _⟩
      exact (Nat.ne_of_gt ahead) same
  | returned active visited found =>
      obtain ⟨trail, along⟩ := (consistent.loaded_of_active active).trail
      obtain ⟨earlier, _, named, below, _⟩ := along.back visited
      obtain rfl := Except.ok.inj (named.symm.trans found)
      simp only [reduceCtorEq, false_iff]
      rintro ⟨same, _⟩
      exact (Nat.ne_of_lt below) same
  | lost active visited absent =>
      obtain ⟨trail, along⟩ := (consistent.loaded_of_active active).trail
      obtain ⟨_, _, found, _⟩ := along.back visited
      cases found.symm.trans absent
  | completed active =>
      simp only [reduceCtorEq, false_iff]
      rintro ⟨_, same⟩
      cases same.trans active
  | marked _ => exact ⟨fun _ => ⟨rfl, rfl⟩, fun _ => rfl⟩

/--
A command announces nothing exactly if it neither moves nor ends the session nor starts one, and it
announces a start exactly if it starts one.
-/
theorem Consistent.announced (consistent : session.Consistent) (command : Command) :
    ((command.run session).event = none ↔
      (command.run session).session.index = session.index ∧
        (command.run session).session.status = session.status ∧
          session.startedBy command = false) ∧
    ((∃ event, (command.run session).event = some event ∧ event.kind = .start) ↔
      session.startedBy command = true) := by
  by_cases start : command.isStart = true
  · have announces := session.event_run_of_isStart start
    split at announces
    case isTrue starts =>
      obtain ⟨event, told, kind⟩ := announces
      simp [told, kind, starts]
    case isFalse refused =>
      obtain ⟨silent, same⟩ := announces
      simp [silent, same, refused]
  · have other : command.isStart = false := Bool.eq_false_iff.mpr start
    have starts : session.startedBy command = false := by rw [startedBy, other, Bool.false_and]
    have kinds : ∀ event, (command.run session).event = some event → event.kind ≠ .start :=
      fun _ told => kind_run_ne_start other told
    have silent := (session.run_change command).event_eq_none_iff consistent kinds
    constructor
    · rw [silent, starts]
      simp
    · rw [starts]
      simpa using kinds

/-- An event names the index that the session stands on afterwards and the line there. -/
theorem Change.event_names {told : Event} (change : session.Change (some told) changed)
    (consistent : session.Consistent) :
    told.index = changed.index ∧ changed.trace[told.index]? = some told.line := by
  generalize named : some told = event at change
  cases change with
  | unchanged => cases named
  | @started source recording frames breakpoints nonempty _ _ =>
      cases named
      refine ⟨rfl, ?_⟩
      cases lines : recording.lines with
      | nil => exact (nonempty lines).elim
      | cons first rest => rfl
  | moved active lands _ =>
      cases named
      obtain ⟨_, inside⟩ := (consistent.loaded_of_active active).land lands
      refine ⟨rfl, ?_⟩
      simp [movedTo, visitAt, List.getElem?_eq_getElem inside]
  | returned active visited found =>
      cases named
      exact ⟨rfl, (Recording.nth_eq_ok_iff_rankAt.mp found).1⟩
  | lost active visited absent => cases named
  | completed active =>
      cases named
      have inside := (consistent.loaded_of_active active).inside
      refine ⟨rfl, ?_⟩
      simp [announce, lineHere?, List.getElem?_eq_getElem inside]
  | marked _ => cases named

theorem begun_of_active (active : session.status = .active) :
    session.status ≠ .uninitialized := by
  rw [active]
  exact Status.noConfusion

/-- Whatever is announced, the session was started. -/
theorem Change.begun {told : Event} (change : session.Change (some told) changed) :
    changed.status ≠ .uninitialized := by
  cases change with
  | started _ _ _ => exact Status.noConfusion
  | moved active _ _ => exact begun_of_active active
  | returned active _ _ => exact begun_of_active active
  | completed _ => exact Status.noConfusion

/-! ## The account stays right -/

theorem Trail.length_eq {trail : List Nat} (along : session.Trail trail) :
    trail.length = session.history.length := by
  have named := congrArg List.length along.named
  rw [List.length_map, List.length_map] at named
  exact named.symm

/-- Going back, the rest of the trail is left. -/
theorem Trail.tail {trail : List Nat} {current previous : Visit} {older : List Visit} {index : Nat}
    (along : session.Trail trail) (visited : session.history = current :: previous :: older)
    (found : Recording.nth session.trace previous.line previous.rank = .ok index) :
    (session.backAt previous older index).Trail trail.tail := by
  obtain ⟨earlier, rest, named, below, back⟩ := along.back visited
  obtain rfl := Except.ok.inj (named.symm.trans found)
  have tailNamed := along.named
  rw [visited] at tailNamed
  cases trail with
  | nil => cases tailNamed
  | cons here tail =>
      have injective : Function.Injective (Except.ok : Nat → Except MissingLine Nat) :=
        fun _ _ => Except.ok.inj
      have same : tail = earlier :: rest :=
        List.map_injective_iff.mpr injective
          ((List.cons.inj tailNamed).2.symm.trans back.named)
      rw [List.tail_cons, same]
      exact back

theorem isPrefix_keepVisits {α : Type} (settings : EngineSettings) (visits : List α) :
    keepVisits settings visits <+: visits := by
  rw [keepVisits]
  split
  · exact List.prefix_rfl
  · exact List.take_prefix _ _

end Session

namespace Account

open Session

variable {account : Account} {session changed : Session} {event : Option Event}

/-- The latest index on the stack is the current one. -/
theorem Fits.head_stack (fits : account.Fits session)
    (started : session.status ≠ .uninitialized) : account.stack.head? = some session.index := by
  obtain ⟨trail, along, ⟨rest, stack⟩, _⟩ := fits.trail started
  rw [← stack, List.head?_append, along.current]
  rfl

/-- An account that is told what a change announces stays right. -/
theorem Fits.told (fits : account.Fits session) (consistent : session.Consistent)
    (change : session.Change event changed) :
    (event.toList.foldl tell account).Fits changed := by
  cases change with
  | unchanged => exact fits
  | @started source recording frames breakpoints nonempty valid framed =>
      have loaded : (session.startedOn source recording.lines frames breakpoints).Loaded :=
        loaded_startedOn nonempty framed
      obtain ⟨trail, along⟩ := loaded.trail
      obtain ⟨only, rfl⟩ := List.length_eq_one_iff.mp along.length_eq
      obtain rfl : only = 0 := Option.some.inj along.current
      exact ⟨rfl, fun _ => ⟨[0], along, List.prefix_rfl, fun _ => rfl⟩⟩
  | @moved action breakpoints kind target active lands forward =>
      have loaded := consistent.loaded_of_active active
      obtain ⟨ahead, inside⟩ := loaded.land lands
      obtain ⟨trail, along, within, unlimited⟩ := fits.trail (begun_of_active active)
      have told : account.tell { kind, line := (session.visitAt target).line, index := target } =
          { account with stack := target :: account.stack } := by
        rcases forward with rfl | rfl <;> rfl
      rw [Option.toList_some, List.foldl_cons, List.foldl_nil, told]
      refine ⟨fits.status, fun _ => ⟨_, along.moved ahead inside, ?_, ?_⟩⟩
      · exact (isPrefix_keepVisits _ _).trans ((List.prefix_cons_inj target).mpr within)
      · intro limitless
        have unbounded : session.settings.maxHistory = 0 := limitless
        rw [keepVisits, if_pos unbounded, unlimited unbounded]
  | @returned current previous older index active visited found =>
      obtain ⟨trail, along, within, unlimited⟩ := fits.trail (begun_of_active active)
      have left : trail.tail <+: account.stack.tail := by
        simpa only [List.drop_one] using within.drop 1
      refine ⟨fits.status, fun _ => ⟨_, along.tail visited found, left, ?_⟩⟩
      intro limitless
      rw [unlimited limitless]
      rfl
  | lost active visited absent =>
      obtain ⟨trail, along⟩ := (consistent.loaded_of_active active).trail
      obtain ⟨_, _, found, _⟩ := along.back visited
      cases found.symm.trans absent
  | completed active =>
      obtain ⟨trail, along, within, unlimited⟩ := fits.trail (begun_of_active active)
      exact ⟨rfl, fun _ => ⟨trail, { along with }, within, unlimited⟩⟩
  | marked _ =>
      refine ⟨fits.status, fun started => ?_⟩
      obtain ⟨trail, along, within, unlimited⟩ := fits.trail started
      exact ⟨trail, { along with }, within, unlimited⟩

/-- An account that is told the events of a run stays right. -/
theorem Fits.told_eventsOf (fits : account.Fits session) (consistent : session.Consistent)
    (commands : List Command) :
    ((session.eventsOf commands).foldl tell account).Fits (session.after commands) := by
  induction commands generalizing session account with
  | nil => exact fits
  | cons command rest induction =>
      have change := session.run_change command
      rw [eventsOf_cons, List.foldl_append, after_cons]
      exact induction (fits.told consistent change) (change.consistent consistent)

/-- Once a start was told, an account is about a session that was started. -/
theorem status_ofEvents_ne_uninitialized {events : List Event}
    (started : ∃ event ∈ events, event.kind = .start) :
    (ofEvents events).status ≠ .uninitialized := by
  have later : ∀ (account : Account) (events : List Event),
      account.status ≠ .uninitialized →
        (events.foldl tell account).status ≠ .uninitialized := by
    intro account events known
    induction events generalizing account with
    | nil => exact known
    | cons event rest induction =>
        apply induction
        unfold tell
        cases event.kind with
        | start | complete => exact Status.noConfusion
        | step | breakpoint | stepBack => exact known
  obtain ⟨start, member, kind⟩ := started
  obtain ⟨before, after, rfl⟩ := List.append_of_mem member
  rw [ofEvents, List.foldl_append, List.foldl_cons]
  apply later
  rw [tell, kind]
  exact Status.noConfusion

end Account

namespace Session

/--
A listener who folds the events of a session, whatever commands it is given, knows its status, and
from the first start on its index and its visits: they lead along the latest indices of the stack,
and along the whole stack if the history has no limit.  Whatever command comes next, it announces
one event or none.  An event names the index that the session stands on afterwards and the line
there, and going back uncovers that index on the stack.  Nothing is announced exactly if the index
and the status stay as they are and no start is accepted.
-/
theorem account_after (settings : EngineSettings) (commands : List Command) :
    let fresh := new settings
    let session := fresh.after commands
    let events := fresh.eventsOf commands
    let account := Account.ofEvents events
    account.status = session.status ∧
    ((∃ event ∈ events, event.kind = .start) →
      account.stack.head? = some session.index ∧
      ∃ indices : List Nat,
        session.history.map (fun visit => Recording.nth session.trace visit.line visit.rank) =
          indices.map Except.ok ∧
        indices ≠ [] ∧ indices <+: account.stack ∧
        (settings.maxHistory = 0 → indices = account.stack)) ∧
    ∀ command : Command,
      let turn := command.run session
      (∀ event, turn.event = some event →
        event.index = turn.session.index ∧
          turn.session.trace[event.index]? = some event.line ∧
          (event.kind = .stepBack → account.stack.tail.head? = some event.index)) ∧
      (turn.event = none ↔
        turn.session.index = session.index ∧ turn.session.status = session.status ∧
          session.startedBy command = false) ∧
      ((∃ event, turn.event = some event ∧ event.kind = .start) ↔
        session.startedBy command = true) := by
  intro fresh session events account
  have consistent : session.Consistent := consistent_after settings commands
  have kept : session.settings = settings := settings_after fresh commands
  have unstarted : (({} : Account)).Fits fresh := ⟨rfl, fun started => (started rfl).elim⟩
  have fits : account.Fits session := unstarted.told_eventsOf (consistent_new settings) commands
  refine ⟨fits.status, ?_, fun command => ⟨?_, consistent.announced command⟩⟩
  · intro started
    have begun : session.status ≠ .uninitialized :=
      fits.status ▸ Account.status_ofEvents_ne_uninitialized started
    obtain ⟨trail, along, within, unlimited⟩ := fits.trail begun
    refine ⟨fits.head_stack begun, trail, along.named, ?_, within, ?_⟩
    · rintro rfl
      cases along.current
    · rw [← kept]
      exact unlimited
  · intro event told
    have change := session.run_change command
    rw [told] at change
    obtain ⟨index, line⟩ := change.event_names consistent
    refine ⟨index, line, fun back => ?_⟩
    have fitsNext : (account.tell event).Fits (command.run session).session :=
      fits.told consistent change
    have stack : (account.tell event).stack = account.stack.tail := by rw [Account.tell, back]
    rw [← stack, index]
    exact fitsNext.head_stack change.begun

end Session

end Playback
