import Mathlib.Order.Interval.Finset.Nat
import Playback.Proofs.Command.Notation
import Playback.Proofs.Recording.Frames
import Playback.Proofs.Recording.Occurrence
import Playback.Proofs.Session.Account
import Playback.Proofs.Source.Scope
import Playback.Proofs.Text.Lines

/-!
# Sessions of 64-bit numbers

A session counts without bounds, and what it shows is read again only if it fits 64 bits.  Besides
the numbers from outside it counts lines, positions and depths.  The main statements are that all
its numbers keep fitting, as long as whatever it is started on can be counted, and that the numbers
of every reply fit then as well.  What is read from a text that can be counted can be counted, too.
-/

namespace Playback

open Text (maxWord)

/-- Whether the numbers of a session fit 64 bits, and the sizes of what it holds do. -/
structure Session.FitsWords (session : Session) : Prop where
  source : session.source.length ≤ maxWord
  scopes : ∀ scope ∈ session.scopes.scopes, scope.indent ≤ maxWord
  trace : ∀ line ∈ session.trace, line ≤ maxWord
  totalSteps : session.trace.length ≤ maxWord
  frames : ∀ frame ∈ session.frames, frame.depth ≤ maxWord ∧ frame.indent ≤ maxWord
  depths : session.depths.length ≤ maxWord
  index : session.index ≤ maxWord
  history : ∀ visit ∈ session.history, visit.line ≤ maxWord
  /-- Lines are counted from one, so there are no more of them than fit, either. -/
  breakpoints : ∀ line ∈ session.breakpoints.toList, 1 ≤ line ∧ line ≤ maxWord

/-- Whether what a start has to count fits 64 bits: lines and positions. -/
def Command.Countable : Command → Prop
  | .start source trace _ _ =>
    (Text.lines source.toList).length ≤ maxWord ∧ trace.length ≤ maxWord
  | _ => True

/-- A command has no more to count than the text that it is read from. -/
theorem Command.countable_of_read? {text : List Char} {command : Command}
    (read : Command.read? text = some command) (fits : text.length ≤ maxWord) :
    command.Countable := by
  cases command with
  | start source trace breakpoints depths =>
      obtain ⟨shortSource, shortTrace⟩ := Command.length_le_of_read?_start read
      exact ⟨(Text.length_lines_le _).trans (shortSource.trans fits), shortTrace.trans fits⟩
  | _ => trivial

namespace Session

variable {session changed : Session} {event : Option Event}

theorem fitsWords_new (settings : EngineSettings) : (new settings).FitsWords where
  source := Nat.zero_le _
  scopes := List.forall_mem_nil _
  trace := List.forall_mem_nil _
  totalSteps := Nat.zero_le _
  frames := List.forall_mem_nil _
  depths := Nat.zero_le _
  index := Nat.zero_le _
  history := List.forall_mem_nil _
  breakpoints := List.forall_mem_nil _

/-! ## Sessions after a command -/

theorem FitsWords.getD_trace (fits : session.FitsWords) (index : Nat) :
    session.trace[index]?.getD 0 ≤ maxWord := by
  cases held : session.trace[index]? with
  | none => exact Nat.zero_le _
  | some line => exact fits.trace line (List.mem_of_getElem? held)

theorem headD_le {lines : List Nat} {bound : Nat} (fits : ∀ line ∈ lines, line ≤ bound) :
    lines.headD 0 ≤ bound := by
  cases lines with
  | nil => exact Nat.zero_le _
  | cons first rest => exact fits first List.mem_cons_self

theorem FitsWords.withBreakpoints (fits : session.FitsWords) {breakpoints : LineSet}
    (valid : ∀ line ∈ breakpoints.toList,
      line ∈ session.breakpoints.toList ∨ session.hasLine line = true) :
    (session.withBreakpoints breakpoints).FitsWords := by
  refine { fits with breakpoints := fun line member => ?_ }
  rcases valid line member with known | inSource
  · exact fits.breakpoints line known
  · obtain ⟨positive, bounded⟩ := hasLine_iff.mp inSource
    exact ⟨positive, bounded.trans fits.source⟩

theorem FitsWords.movedTo (fits : session.FitsWords) {target : Nat} (inside : target ≤ maxWord) :
    (session.movedTo target).FitsWords := by
  refine { fits with index := inside, history := fun visit member => ?_ }
  rcases List.mem_cons.mp ((keepVisits_sublist _ _).mem member) with rfl | earlier
  · exact fits.getD_trace target
  · exact fits.history visit earlier

/-- Where an action can land is counted by what it looks at. -/
theorem FitsWords.land (fits : session.FitsWords) {breakpoints : LineSet} {action : Action}
    {target : Nat}
    (lands : { session.course with breakpoints }.land action session.index = .moved target) :
    target ≤ maxWord := by
  exact (Course.lt_of_land lands fits.totalSteps fits.depths).le

theorem FitsWords.backAt (fits : session.FitsWords) {current previous : Visit}
    {older : List Visit} {index : Nat} (visited : session.history = current :: previous :: older)
    (found : Recording.nth session.trace previous.line previous.rank = .ok index) :
    (session.backAt previous older index).FitsWords := by
  have held := (Recording.nth_eq_ok_iff_rankAt.mp found).1
  have inside : index < session.trace.length := (List.getElem?_eq_some_iff.mp held).1
  refine { fits with index := inside.le.trans fits.totalSteps, history := fun visit member => ?_ }
  exact fits.history visit (visited ▸ List.mem_cons_of_mem current member)

/-- A change other than a start leaves no number that does not fit. -/
theorem Change.fitsWords (change : session.Change event changed) (fits : session.FitsWords)
    (moves : ∀ told ∈ event, told.kind ≠ .start) : changed.FitsWords := by
  cases change with
  | unchanged => exact fits
  | started => exact (moves _ rfl rfl).elim
  | moved _ lands _ => exact fits.movedTo (fits.land lands)
  | returned _ visited found => exact fits.backAt visited found
  | lost _ visited _ =>
      refine { fits with history := fun visit member => ?_ }
      exact fits.history visit (visited ▸ List.mem_cons_of_mem _ member)
  | completed => exact { fits with }
  | marked valid => exact fits.withBreakpoints valid

/-- A start on what can be counted leaves only numbers that fit. -/
theorem fitsWords_startedOn {source : List String} {recording : Recording} {frames : List Frame}
    {breakpoints : List Nat} (fewLines : source.length ≤ maxWord)
    (fewSteps : recording.lines.length ≤ maxWord)
    (fitsLines : ∀ line ∈ recording.lines, line ≤ maxWord)
    (fitsDepths : ∀ depth ∈ recording.depths.getD [], depth ≤ maxWord)
    (valid : firstMissing? source.length breakpoints = none)
    (framed :
      recording.frames (ScopeTable.ofLines session.settings.tabWidth source) = .ok frames) :
    (session.startedOn source recording.lines frames breakpoints).FitsWords := by
  have scopes : ∀ scope ∈ (ScopeTable.ofLines session.settings.tabWidth source).scopes,
      scope.indent ≤ maxWord := by
    intro scope member
    obtain ⟨line, _, rfl⟩ := List.mem_map.mp member
    exact Scope.indent_ofLine_le _ _
  have sameLength := Recording.length_frames framed
  refine
    { source := fewLines
      scopes
      trace := fitsLines
      totalSteps := fewSteps
      frames := fun frame member => ⟨?_, ?_⟩
      depths := ?_
      index := Nat.zero_le _
      history := ?_
      breakpoints := fun line member => ?_ }
  · exact Recording.depth_le_of_mem_frames framed fewSteps fitsDepths frame member
  · rw [Recording.eq_frameAt_of_mem_frames framed frame member]
    exact ScopeTable.indent_get_le scopes _
  · change (frames.map (·.depth)).length ≤ maxWord
    rw [List.length_map, sameLength]
    exact fewSteps
  · exact List.forall_mem_singleton.mpr (headD_le fitsLines)
  · obtain ⟨positive, inside⟩ :=
      firstMissing?_eq_none_iff.mp valid line (LineSet.mem_toList_ofList.mp member)
    exact ⟨positive, inside.trans fewLines⟩

/-- Numbers that fit are all that a command leaves. -/
theorem FitsWords.run (fits : session.FitsWords) {command : Command}
    (fitsCommand : command.FitsWords) (countable : command.Countable) :
    (command.run session).session.FitsWords := by
  cases start : command.isStart with
  | false =>
      exact (session.run_change command).fitsWords fits fun told announced =>
        kind_run_ne_start start announced
  | true =>
      cases command with
      | start source trace breakpoints depths =>
          obtain ⟨fitsTrace, _, fitsDepths⟩ := Command.fitsWords_start.mp fitsCommand
          obtain ⟨fewLines, fewSteps⟩ := countable
          rcases session.restart_cases source { lines := trace, depths } breakpoints with
            ⟨refused, same⟩ | ⟨frames, _, valid, framed, same⟩
          · rw [Command.run, same]
            exact fits
          · rw [Command.run, same]
            refine fitsWords_startedOn ?_ fewSteps fitsTrace fitsDepths valid framed
            rw [List.length_map]
            exact fewLines
      | _ => cases start

end Session

/-! ## Numbers of a reply -/

def Report.numbers (report : Report) : List Nat :=
  report.line.toList ++ report.depth.toList ++ report.indent.toList ++ [report.index]

def Snapshot.numbers (snapshot : Snapshot) : List Nat :=
  snapshot.line.toList ++ snapshot.breakpoints ++ snapshot.history ++
    [snapshot.index, snapshot.totalSteps, snapshot.depth, snapshot.indent]

/-- The numbers that a reply shows. -/
def Reply.numbers : Reply → List Nat
  | .report shown => shown.numbers
  | .added _ breakpoints | .removed _ breakpoints | .toggled _ breakpoints => breakpoints
  | .cleared count breakpoints => count :: breakpoints
  | .state snapshot => snapshot.numbers
  | .scope judgement => [judgement.indent]

namespace Session

variable {session : Session}

theorem FitsWords.frame? (fits : session.FitsWords) :
    ∀ frame ∈ session.frame?, frame.depth ≤ maxWord ∧ frame.indent ≤ maxWord :=
  fun frame here => fits.frames frame (List.mem_of_getElem? here)

theorem FitsWords.lineHere? (fits : session.FitsWords) :
    ∀ line ∈ session.lineHere?, line ≤ maxWord :=
  fun line here => fits.trace line (List.mem_of_getElem? here)

theorem FitsWords.numbers_report (fits : session.FitsWords) {line : Option Nat}
    (fitsLine : ∀ number ∈ line, number ≤ maxWord) (outcome : Outcome) :
    ∀ number ∈ (session.report line outcome).numbers, number ≤ maxWord := by
  intro number member
  simp only [Report.numbers, Session.report, List.mem_append, Option.mem_toList,
    List.mem_singleton] at member
  rcases member with ((here | deep) | indented) | rfl
  · exact fitsLine number here
  · obtain ⟨frame, known, rfl⟩ := Option.mem_map.mp deep
    exact (fits.frame? frame known).1
  · split at indented
    case isTrue =>
      obtain ⟨scope, known, rfl⟩ := Option.mem_map.mp indented
      obtain ⟨judged, _, rfl⟩ := Option.mem_map.mp known
      exact ScopeTable.indent_get_le fits.scopes judged
    case isFalse => cases indented
  · exact fits.index

theorem FitsWords.numbers_perform (fits : session.FitsWords) (action : Action) :
    ∀ number ∈ (session.perform action).answer.numbers, number ≤ maxWord := by
  have nowhere : ∀ number ∈ (none : Option Nat), number ≤ maxWord := by simp
  rcases session.perform_cases action with
    ⟨_, same⟩ | ⟨_, ⟨target, lands, same⟩ | ⟨_, same⟩ | ⟨_, _, same⟩⟩
  · rw [same]
    exact fits.numbers_report nowhere _
  · rw [same]
    have inside : target ≤ maxWord := fits.land lands
    refine (fits.movedTo inside).numbers_report (fun line here => ?_) _
    cases here
    exact fits.getD_trace target
  · rw [same]
    have finished : { session with status := .complete }.FitsWords := { fits with }
    exact finished.numbers_report nowhere _
  · rw [same]
    exact fits.numbers_report fits.lineHere? _

theorem FitsWords.numbers_stepBack (fits : session.FitsWords) :
    ∀ number ∈ session.stepBack.answer.numbers, number ≤ maxWord := by
  have nowhere : ∀ number ∈ (none : Option Nat), number ≤ maxWord := by simp
  rcases session.stepBack_cases with
    ⟨_, same⟩ | ⟨_, _, same⟩ |
    ⟨_, current, previous, older, visited, ⟨index, found, same⟩ | ⟨missing, _, same⟩⟩
  · rw [same]
    exact fits.numbers_report nowhere _
  · rw [same]
    exact fits.numbers_report fits.lineHere? _
  · rw [same]
    refine (fits.backAt visited found).numbers_report (fun line here => ?_) _
    cases here
    exact fits.history previous (visited ▸ List.mem_cons_of_mem _ List.mem_cons_self)
  · rw [same]
    have left : { session with history := previous :: older, status := .error }.FitsWords :=
      { fits with
        history := fun visit member =>
          fits.history visit (visited ▸ List.mem_cons_of_mem _ member) }
    exact left.numbers_report nowhere _

theorem FitsWords.numbers_runToLine (fits : session.FitsWords) {target : Nat} {report : Report}
    (answered : (session.runToLine target).answer = .ok report) :
    ∀ number ∈ report.numbers, number ≤ maxWord := by
  by_cases active : session.status = .active
  · by_cases inSource : session.hasLine target = true
    · rw [runToLine_eq active inSource] at answered
      cases answered
      refine FitsWords.numbers_perform (fits.withBreakpoints fun line member => ?_) .continue
      rcases LineSet.mem_toList_insert.mp member with rfl | known
      · exact Or.inr inSource
      · exact Or.inl known
    · rw [runToLine_eq_refuseLine active inSource] at answered
      cases answered
  · rw [runToLine, if_neg active] at answered
    cases answered
    exact fits.numbers_report (by simp) _

theorem FitsWords.numbers_snapshot (fits : session.FitsWords) :
    ∀ number ∈ session.snapshot.numbers, number ≤ maxWord := by
  have ofFrame : ∀ {tell : Frame → Nat}, (∀ frame ∈ session.frame?, tell frame ≤ maxWord) →
      (session.frame?.map tell).getD 0 ≤ maxWord := by
    intro tell bounded
    cases here : session.frame? with
    | none => exact Nat.zero_le _
    | some frame => exact bounded frame here
  intro number member
  simp only [Snapshot.numbers, snapshot, List.mem_append, Option.mem_toList, List.mem_cons,
    List.not_mem_nil, or_false] at member
  rcases member with ((here | marked) | visited) | rfl | rfl | rfl | rfl
  · rw [currentLine?] at here
    split at here
    · cases here
    · exact fits.lineHere? number here
  · exact (fits.breakpoints number marked).2
  · obtain ⟨visit, known, rfl⟩ := List.mem_map.mp (List.mem_reverse.mp visited)
    exact fits.history visit known
  · exact fits.index
  · exact fits.totalSteps
  · exact ofFrame fun frame here => (fits.frame? frame here).1
  · exact ofFrame fun frame here => (fits.frame? frame here).2

/-- There are no more breakpoints than lines that they can be at. -/
theorem FitsWords.size_breakpoints (fits : session.FitsWords) :
    session.breakpoints.size ≤ maxWord := by
  have among : session.breakpoints.toFinset ⊆ Finset.Icc 1 maxWord := fun line member =>
    Finset.mem_Icc.mpr (fits.breakpoints line (LineSet.mem_toFinset.mp member))
  have counted := Finset.card_le_card among
  rwa [LineSet.card_toFinset, Nat.card_Icc, Nat.add_sub_cancel] at counted

theorem FitsWords.numbers_breakpointTurn {mark : Bool → List Nat → Reply}
    (numbers : ∀ flag breakpoints, (mark flag breakpoints).numbers = breakpoints)
    {turn : Turn (Except SessionError Bool)} (fits : turn.session.FitsWords) {reply : Reply}
    (answered : (breakpointTurn mark turn).answer = .ok reply) :
    ∀ number ∈ reply.numbers, number ≤ maxWord := by
  rw [breakpointTurn, Turn.map] at answered
  cases answer : turn.answer with
  | error refused =>
      rw [answer] at answered
      cases answered
  | ok flag =>
      rw [answer] at answered
      cases answered
      rw [numbers]
      exact fun line member => (fits.breakpoints line member).2

/-- Numbers that fit are all that the reply to a command shows. -/
theorem FitsWords.numbers_reply (fits : session.FitsWords) {command : Command}
    (fitsAfter : (command.run session).session.FitsWords) {reply : Reply}
    (answered : (command.run session).answer = .ok reply) :
    ∀ number ∈ reply.numbers, number ≤ maxWord := by
  cases command with
  | start source trace breakpoints depths =>
      rcases session.restart_cases source { lines := trace, depths } breakpoints with
        ⟨refused, same⟩ | ⟨frames, _, _, _, same⟩
      · rw [Command.run, same] at answered
        cases answered
      · rw [Command.run, same] at answered fitsAfter
        cases answered
        refine fitsAfter.numbers_report (fun line here => ?_) _
        cases here
        exact headD_le fitsAfter.trace
  | forward action =>
      cases answered
      exact fits.numbers_perform action
  | stepBack =>
      cases answered
      exact fits.numbers_stepBack
  | addBreakpoint line => exact fitsAfter.numbers_breakpointTurn (fun _ _ => rfl) answered
  | removeBreakpoint line => exact fitsAfter.numbers_breakpointTurn (fun _ _ => rfl) answered
  | toggleBreakpoint line => exact fitsAfter.numbers_breakpointTurn (fun _ _ => rfl) answered
  | clearBreakpoints =>
      cases answered
      exact List.forall_mem_cons.mpr ⟨fits.size_breakpoints, List.forall_mem_nil _⟩
  | runToLine line =>
      rw [Command.run, Turn.map] at answered
      cases answer : (session.runToLine line).answer with
      | error refused =>
          rw [answer] at answered
          cases answered
      | ok report =>
          rw [answer] at answered
          cases answered
          exact fits.numbers_runToLine answer
  | getState =>
      cases answered
      exact fits.numbers_snapshot
  | getScopeInfo line =>
      cases answered
      exact List.forall_mem_singleton.mpr (ScopeTable.indent_get_le fits.scopes line)

end Session

end Playback
