import Mathlib.Data.Finset.SymmDiff
import Playback.Proofs.Session.Lifecycle

/-!
# Breakpoints are a set of lines of the source

From one start to the next, the breakpoints are what a finite set would be that begins as the lines
the start was given.  Three commands edit the set at one line, if the source has that line, one
empties it, and no other command touches it, although running to a line sets a breakpoint for
the time it takes.  What the session shows is the ascending listing of the set, and what the
edits answer is read off the set before and after.

Since nothing else of a session goes into an edit or comes out of it, two ways of editing that
make the same of every set make the same of every session.  The laws of edits are therefore
shown for sets.
-/

namespace Playback

/-! ## Edits of a finite set -/

/-- A change of the breakpoints at one line. -/
inductive Edit
  | add
  | remove
  | toggle
  deriving DecidableEq

namespace Edit

def command : Edit → (line : Nat) → Command
  | .add => .addBreakpoint
  | .remove => .removeBreakpoint
  | .toggle => .toggleBreakpoint

/-- The set after an edit at a line that the source has. -/
def apply (line : Nat) (marked : Finset Nat) : Edit → Finset Nat
  | .add => insert line marked
  | .remove => marked.erase line
  | .toggle => symmDiff marked {line}

/-- The set after an edit; an edit at a line that the source lacks changes nothing. -/
def within (sourceLines line : Nat) (marked : Finset Nat) (edit : Edit) : Finset Nat :=
  if 1 ≤ line ∧ line ≤ sourceLines then edit.apply line marked else marked

/-- What an edit answers: whether the line is new, whether it was there, whether it is there now. -/
def tells (line : Nat) (marked : Finset Nat) : Edit → Bool
  | .add => line ∉ marked
  | .remove => line ∈ marked
  | .toggle => line ∈ Edit.toggle.apply line marked

def reply : Edit → Bool → List Nat → Reply
  | .add => .added
  | .remove => .removed
  | .toggle => .toggled

variable {edit : Edit} {line member sourceLines : Nat} {marked : Finset Nat}

/-- What an edit makes of the membership of its line. -/
def sets (before : Prop) : Edit → Prop
  | .add => True
  | .remove => False
  | .toggle => ¬before

theorem mem_apply_self : line ∈ edit.apply line marked ↔ edit.sets (line ∈ marked) := by
  cases edit <;> simp [apply, sets, Finset.mem_symmDiff]

/-- An edit at one line leaves the others alone. -/
theorem mem_apply_of_ne (other : member ≠ line) :
    member ∈ edit.apply line marked ↔ member ∈ marked := by
  cases edit <;> simp [apply, Finset.mem_symmDiff, other]

/-- Edits at different lines commute. -/
theorem apply_comm {first second : Edit} {left right : Nat} (different : left ≠ right) :
    second.apply right (first.apply left marked) =
      first.apply left (second.apply right marked) := by
  ext member
  by_cases atLeft : member = left
  · subst atLeft
    rw [mem_apply_of_ne different, mem_apply_self, mem_apply_self, mem_apply_of_ne different]
  · by_cases atRight : member = right
    · subst atRight
      rw [mem_apply_self, mem_apply_of_ne atLeft, mem_apply_of_ne atLeft, mem_apply_self]
    · simp only [mem_apply_of_ne atLeft, mem_apply_of_ne atRight]

theorem within_comm {first second : Edit} {left right : Nat} (different : left ≠ right) :
    second.within sourceLines right (first.within sourceLines left marked) =
      first.within sourceLines left (second.within sourceLines right marked) := by
  unfold within
  split <;> split <;> simp only [apply_comm different]

/-- What an edit answers does not depend on an edit at another line. -/
theorem tells_within_of_ne {first : Edit} {other : Nat} (different : other ≠ line) :
    edit.tells line (first.within sourceLines other marked) = edit.tells line marked := by
  have same : line ∈ first.within sourceLines other marked ↔ line ∈ marked := by
    unfold within
    split
    · exact mem_apply_of_ne different.symm
    · rfl
  cases edit with
  | add => simp only [tells, same]
  | remove => simp only [tells, same]
  | toggle => simp only [tells, mem_apply_self, sets, same]

/-- An edit that leaves nothing to do for another one of its kind. -/
theorem within_within_of_ne_toggle (settles : edit ≠ .toggle) :
    edit.within sourceLines line (edit.within sourceLines line marked) =
      edit.within sourceLines line marked := by
  unfold within
  split
  · cases edit with
    | add => exact Finset.insert_idem line marked
    | remove => exact Finset.erase_idem
    | toggle => exact (settles rfl).elim
  · rfl

theorem toggle_within_within :
    Edit.toggle.within sourceLines line (Edit.toggle.within sourceLines line marked) = marked := by
  unfold within
  split
  · exact symmDiff_symmDiff_cancel_right _ _
  · rfl

/-- A set of lines after an edit at a line that the source has. -/
def change (line : Nat) (set : LineSet) : Edit → LineSet
  | .add => set.insert line
  | .remove => set.erase line
  | .toggle => if set.contains line then set.erase line else set.insert line

theorem toFinset_change {set : LineSet} :
    (edit.change line set).toFinset = edit.apply line set.toFinset := by
  cases edit with
  | add => exact LineSet.toFinset_insert
  | remove => exact LineSet.toFinset_erase
  | toggle =>
      rw [change, set.contains_eq_decide]
      ext member
      by_cases same : member = line <;> by_cases known : line ∈ set.toFinset <;>
        simp_all [apply, Finset.mem_symmDiff]

end Edit

/-- The set of breakpoints after a command, unless the command starts afresh. -/
def Command.marked (sourceLines : Nat) (marked : Finset Nat) : Command → Finset Nat
  | .addBreakpoint line => Edit.add.within sourceLines line marked
  | .removeBreakpoint line => Edit.remove.within sourceLines line marked
  | .toggleBreakpoint line => Edit.toggle.within sourceLines line marked
  | .clearBreakpoints => ∅
  | .start .. | .forward _ | .stepBack | .runToLine _ | .getState | .getScopeInfo _ => marked

/-- A command to change the breakpoints. -/
def Command.isEdit : Command → Bool
  | .addBreakpoint _ | .removeBreakpoint _ | .toggleBreakpoint _ | .clearBreakpoints => true
  | _ => false

@[simp]
theorem Edit.isEdit_command (edit : Edit) (line : Nat) : (edit.command line).isEdit = true := by
  cases edit <;> rfl

@[simp]
theorem Edit.marked_command (edit : Edit) (line sourceLines : Nat) (marked : Finset Nat) :
    (edit.command line).marked sourceLines marked = edit.within sourceLines line marked := by
  cases edit <;> rfl

namespace Session

variable {session : Session} {command : Command} {commands : List Command}

/-! ## Edits of a session -/

/-- An edit at a line of the source changes the breakpoints and nothing else. -/
theorem run_edit (edit : Edit) {line : Nat} (inSource : session.hasLine line = true) :
    (edit.command line).run session =
      { answer := .ok (edit.reply (edit.tells line session.breakpoints.toFinset)
          (edit.apply line session.breakpoints.toFinset).sort)
        session := session.withBreakpoints (edit.change line session.breakpoints) } := by
  rw [← Edit.toFinset_change, LineSet.sort_toFinset]
  cases edit with
  | add =>
      show breakpointTurn .added (session.addBreakpoint line) = _
      rw [addBreakpoint, if_pos inSource, session.breakpoints.contains_eq_decide, ← decide_not]
      rfl
  | remove =>
      show breakpointTurn .removed (session.removeBreakpoint line) = _
      rw [removeBreakpoint, if_pos inSource, session.breakpoints.contains_eq_decide]
      rfl
  | toggle =>
      show breakpointTurn .toggled (session.toggleBreakpoint line) = _
      rw [toggleBreakpoint_eq inSource]
      have told : Edit.toggle.tells line session.breakpoints.toFinset =
          !session.breakpoints.contains line := by
        simp [Edit.tells, Edit.mem_apply_self, Edit.sets, session.breakpoints.contains_eq_decide]
      rw [told]
      rfl

/-- An edit at a line that the source lacks is refused. -/
theorem run_edit_of_outside (edit : Edit) {line : Nat} (outside : ¬session.hasLine line = true) :
    (edit.command line).run session = session.refuseLine line := by
  cases edit with
  | add =>
      show breakpointTurn .added (session.addBreakpoint line) = _
      rw [addBreakpoint, if_neg outside]
      rfl
  | remove =>
      show breakpointTurn .removed (session.removeBreakpoint line) = _
      rw [removeBreakpoint, if_neg outside]
      rfl
  | toggle =>
      show breakpointTurn .toggled (session.toggleBreakpoint line) = _
      rw [toggleBreakpoint, removeBreakpoint, if_neg outside]
      rfl

/-- What an edit leaves of a session: everything but the breakpoints, and these edited. -/
theorem session_run_edit (edit : Edit) (line : Nat) :
    ∃ breakpoints, ((edit.command line).run session).session =
        session.withBreakpoints breakpoints ∧
      breakpoints.toFinset =
        edit.within session.source.length line session.breakpoints.toFinset := by
  by_cases inSource : session.hasLine line = true
  · rw [run_edit edit inSource, Edit.within, if_pos (hasLine_iff.mp inSource)]
    exact ⟨_, rfl, Edit.toFinset_change⟩
  · rw [run_edit_of_outside edit inSource, Edit.within, if_neg (hasLine_iff.not.mp inSource)]
    exact ⟨session.breakpoints, rfl, rfl⟩

/-- A change of the breakpoints starts nothing and touches nothing else. -/
theorem run_of_isEdit (edits : command.isEdit = true) :
    session.startedBy command = false ∧ ∃ breakpoints,
      (command.run session).session = session.withBreakpoints breakpoints := by
  have edited : ∀ (edit : Edit) (line : Nat), ∃ breakpoints,
      ((edit.command line).run session).session = session.withBreakpoints breakpoints := by
    intro edit line
    obtain ⟨breakpoints, same, _⟩ := session.session_run_edit edit line
    exact ⟨breakpoints, same⟩
  cases command with
  | addBreakpoint line => exact ⟨rfl, edited .add line⟩
  | removeBreakpoint line => exact ⟨rfl, edited .remove line⟩
  | toggleBreakpoint line => exact ⟨rfl, edited .toggle line⟩
  | clearBreakpoints => exact ⟨rfl, .empty, rfl⟩
  | _ => cases edits

/-- A movement touches the position, the visits and the status of a session, nothing else. -/
theorem exists_session_run_eq (move : command.isMove = true) :
    ∃ status index history,
      (command.run session).session = { session with status, index, history } := by
  cases command with
  | forward action => exact session.exists_session_perform_eq action
  | stepBack =>
      show ∃ _ _ _, session.stepBack.session = _
      rcases session.stepBack_cases with
        ⟨_, same⟩ | ⟨_, _, same⟩ | ⟨_, _, _, _, _, ⟨_, _, same⟩ | ⟨_, _, same⟩⟩ <;>
        rw [same] <;> exact ⟨_, _, _, rfl⟩
  | runToLine target =>
      show ∃ _ _ _, (session.runToLine target).session = _
      by_cases active : session.status = .active
      · by_cases inSource : session.hasLine target = true
        · obtain ⟨status, index, history, same⟩ :=
            (session.withBreakpoints
              (session.breakpoints.insert target)).exists_session_perform_eq .continue
          rw [runToLine_eq active inSource]
          dsimp only
          rw [same]
          exact ⟨status, index, history, rfl⟩
        · rw [runToLine_eq_refuseLine active inSource]
          exact ⟨_, _, _, rfl⟩
      · rw [runToLine, if_neg active]
        exact ⟨_, _, _, rfl⟩
  | _ => cases move

/-- A command that starts nothing keeps the source and does to the breakpoints as to a set. -/
theorem marked_run (notStarted : session.startedBy command = false) :
    (command.run session).session.source = session.source ∧
      (command.run session).session.breakpoints.toFinset =
        command.marked session.source.length session.breakpoints.toFinset := by
  have edited : ∀ (edit : Edit) (line : Nat),
      ((edit.command line).run session).session.source = session.source ∧
        ((edit.command line).run session).session.breakpoints.toFinset =
          edit.within session.source.length line session.breakpoints.toFinset := by
    intro edit line
    obtain ⟨breakpoints, same, marks⟩ := session.session_run_edit edit line
    rw [same]
    exact ⟨rfl, marks⟩
  have moved : command.isMove = true →
      (command.run session).session.source = session.source ∧
        (command.run session).session.breakpoints.toFinset = session.breakpoints.toFinset := by
    intro move
    obtain ⟨_, _, _, same⟩ := session.exists_session_run_eq move
    rw [same]
    exact ⟨rfl, rfl⟩
  cases command with
  | start source trace breakpoints depths =>
      have start : Command.isStart (.start source trace breakpoints depths) = true := rfl
      have refused := session.event_run_of_isStart start
      rw [notStarted, if_neg Bool.false_ne_true] at refused
      rw [refused.2]
      exact ⟨rfl, rfl⟩
  | forward action => exact moved rfl
  | stepBack => exact moved rfl
  | runToLine line => exact moved rfl
  | addBreakpoint line => exact edited .add line
  | removeBreakpoint line => exact edited .remove line
  | toggleBreakpoint line => exact edited .toggle line
  | clearBreakpoints => exact ⟨rfl, rfl⟩
  | getState => exact ⟨rfl, rfl⟩
  | getScopeInfo line => exact ⟨rfl, rfl⟩

/-- Until the next start, the breakpoints go through the sets that the commands make of them. -/
theorem marked_after (notStarted : session.restartedBy commands = false) :
    (session.after commands).source = session.source ∧
      (session.after commands).breakpoints.toFinset =
        commands.foldl (Command.marked session.source.length) session.breakpoints.toFinset := by
  induction commands generalizing session with
  | nil => exact ⟨rfl, rfl⟩
  | cons command rest induction =>
      obtain ⟨first, later⟩ := restartedBy_cons.mp notStarted
      obtain ⟨source, marks⟩ := marked_run first
      obtain ⟨sourceLater, marksLater⟩ := induction later
      rw [after_cons, List.foldl_cons, ← marks, ← source]
      exact ⟨sourceLater, marksLater⟩

/-- A start that is accepted reads the lines of the source and merges duplicate breakpoints. -/
theorem marked_start {source : String} {trace initial : List Nat} {depths : Option (List Nat)}
    (accepted : session.startedBy (.start source trace initial depths) = true) :
    let started := (Command.run session (.start source trace initial depths)).session
    started.source.length = (Text.lines source.toList).length ∧
      started.breakpoints.toFinset = initial.toFinset := by
  intro started
  rcases session.restart_cases source { lines := trace, depths } initial with
    ⟨refused, same⟩ | ⟨frames, _, _, _, same⟩
  · rw [startedBy, Command.run, same] at accepted
    cases accepted
  · have begun : started = session.startedOn ((Text.lines source.toList).map String.ofList) trace
        frames initial := by
      show (session.restart source { lines := trace, depths } initial).session = _
      rw [same]
    rw [begun]
    exact ⟨List.length_map _, LineSet.toFinset_ofList⟩

/-- Edits of the breakpoints start nothing and touch nothing else. -/
theorem after_of_isEdit (edits : ∀ command ∈ commands, command.isEdit = true) :
    session.restartedBy commands = false ∧
      session.after commands = session.withBreakpoints (session.after commands).breakpoints := by
  induction commands generalizing session with
  | nil => exact ⟨rfl, rfl⟩
  | cons command rest induction =>
      obtain ⟨first, others⟩ := List.forall_mem_cons.mp edits
      obtain ⟨notStarted, breakpoints, same⟩ := session.run_of_isEdit first
      obtain ⟨later, sameLater⟩ := @induction (command.run session).session others
      refine ⟨restartedBy_cons.mpr ⟨notStarted, later⟩, ?_⟩
      rw [after_cons, sameLater, same]
      rfl

/-- Edits that make the same of the set of breakpoints make the same of the session. -/
theorem after_eq_of_foldl_marked_eq {left right : List Command}
    (leftEdits : ∀ command ∈ left, command.isEdit = true)
    (rightEdits : ∀ command ∈ right, command.isEdit = true)
    (same : left.foldl (Command.marked session.source.length) session.breakpoints.toFinset =
      right.foldl (Command.marked session.source.length) session.breakpoints.toFinset) :
    session.after left = session.after right := by
  obtain ⟨leftStarts, keptLeft⟩ := session.after_of_isEdit leftEdits
  obtain ⟨rightStarts, keptRight⟩ := session.after_of_isEdit rightEdits
  have equal : (session.after left).breakpoints = (session.after right).breakpoints := by
    apply LineSet.eq_of_toFinset_eq
    rw [(marked_after leftStarts).2, (marked_after rightStarts).2, same]
  rw [keptLeft, keptRight, equal]

/-- Setting or clearing a breakpoint again changes nothing. -/
theorem after_edit_edit (edit : Edit) (settles : edit ≠ .toggle) (line : Nat) :
    session.after [edit.command line, edit.command line] = session.after [edit.command line] := by
  apply after_eq_of_foldl_marked_eq
  · simp
  · simp
  · simp [Edit.within_within_of_ne_toggle settles]

theorem after_toggle_toggle (line : Nat) :
    session.after [Edit.toggle.command line, Edit.toggle.command line] = session := by
  show session.after [Edit.toggle.command line, Edit.toggle.command line] = session.after []
  apply after_eq_of_foldl_marked_eq
  · simp
  · simp
  · simp [Edit.toggle_within_within]

theorem after_edits_comm (first second : Edit) {left right : Nat} (different : left ≠ right) :
    session.after [first.command left, second.command right] =
      session.after [second.command right, first.command left] := by
  apply after_eq_of_foldl_marked_eq
  · simp
  · simp
  · simp [Edit.within_comm different]

/--
Take any session right after a start that was accepted, and any commands of which none starts it
again.  What it then shows as breakpoints is the ascending listing of a set of lines of the source:
the set of the lines it was started with, changed by each command in turn.  An edit at a line
of the source is answered by what it changes and by the listing afterwards, one at another line is
refused and changes nothing, and clearing tells how many there were.  Setting or clearing a
breakpoint twice comes to the same as once, flipping it twice to nothing, and edits at different
lines come to the same in either order, and each is answered as if the other had not been made.
-/
theorem breakpoints_form_set (settings : EngineSettings) (earlier : List Command)
    (source : String) (trace initial : List Nat) (depths : Option (List Nat))
    (commands : List Command)
    (accepted :
      ((new settings).after earlier).startedBy (.start source trace initial depths) = true)
    (notStarted :
      ((new settings).after (earlier ++ [.start source trace initial depths])).restartedBy
        commands = false) :
    let sourceLines := (Text.lines source.toList).length
    let session : Session :=
      (new settings).after (earlier ++ .start source trace initial depths :: commands)
    let marked := commands.foldl (Command.marked sourceLines) initial.toFinset
    session.snapshot.breakpoints = marked.sort ∧
    (∀ line ∈ marked, 1 ≤ line ∧ line ≤ sourceLines) ∧
    (∀ (edit : Edit) (line : Nat),
      let turn := (edit.command line).run session
      (1 ≤ line ∧ line ≤ sourceLines →
        turn.answer =
          .ok (edit.reply (edit.tells line marked) (edit.apply line marked).sort)) ∧
      (¬(1 ≤ line ∧ line ≤ sourceLines) →
        turn.answer = .error (.invalidLine line sourceLines) ∧ turn.session = session)) ∧
    (Command.run session .clearBreakpoints).answer = .ok (.cleared marked.card []) ∧
    (∀ line,
      session.after [.addBreakpoint line, .addBreakpoint line] =
          session.after [.addBreakpoint line] ∧
        session.after [.removeBreakpoint line, .removeBreakpoint line] =
          session.after [.removeBreakpoint line] ∧
        session.after [.toggleBreakpoint line, .toggleBreakpoint line] = session) ∧
    ∀ (first second : Edit) (left right : Nat), left ≠ right →
      session.after [first.command left, second.command right] =
          session.after [second.command right, first.command left] ∧
        second.tells right (first.within sourceLines left marked) =
          second.tells right marked := by
  intro sourceLines session marked
  have reached : session =
      ((new settings).after (earlier ++ [.start source trace initial depths])).after commands := by
    simp [session, after]
  have begun : (new settings).after (earlier ++ [.start source trace initial depths]) =
      (Command.run ((new settings).after earlier)
        (.start source trace initial depths)).session := by
    simp [after]
  obtain ⟨length, first⟩ := marked_start accepted
  obtain ⟨sameSource, marks⟩ := marked_after notStarted
  rw [← begun] at length first
  rw [← reached] at sameSource marks
  rw [length, first] at marks
  rw [← sameSource] at length
  change session.breakpoints.toFinset = marked at marks
  have inSource : ∀ line, session.hasLine line = true ↔ 1 ≤ line ∧ line ≤ sourceLines := by
    intro line
    rw [hasLine_iff, length]
  refine ⟨?_, ?_, ?_, ?_, ?_, ?_⟩
  · show session.breakpoints.toList = marked.sort
    rw [← LineSet.sort_toFinset, marks]
  · intro line member
    have valid : ∀ line ∈ session.breakpoints.toList, session.hasLine line = true :=
      (consistent_after settings _).breakpoints
    rw [← marks, LineSet.mem_toFinset] at member
    exact (inSource line).mp (valid line member)
  · intro edit line
    refine ⟨fun inside => ?_, fun outside => ?_⟩
    · rw [run_edit edit ((inSource line).mpr inside), marks]
    · rw [run_edit_of_outside edit ((inSource line).not.mpr outside)]
      exact ⟨by rw [refuseLine, refuse, length], rfl⟩
  · show Except.ok (Reply.cleared session.breakpoints.size []) = _
    rw [← LineSet.card_toFinset, marks]
  · intro line
    exact ⟨after_edit_edit .add (by decide) line, after_edit_edit .remove (by decide) line,
      after_toggle_toggle line⟩
  · intro first second left right different
    exact ⟨after_edits_comm first second different, Edit.tells_within_of_ne different⟩

/-- Breakpoints edited, run past and left behind, with duplicates at the start. -/
theorem breakpoints_form_set_in_a_run :
    let start : Command := .start "a\nb\nc" [1, 2, 3] [3, 1, 3] none
    let commands : List Command :=
      [.toggleBreakpoint 1, .runToLine 2, .addBreakpoint 2, .addBreakpoint 9, .forward .continue]
    (new {}).startedBy start = true ∧
      ((new {}).after [start]).restartedBy commands = false ∧
      ((new {}).after (start :: commands)).snapshot.breakpoints = ({2, 3} : Finset Nat).sort := by
  intro start commands
  have accepted : (new {}).startedBy start = true := by decide +kernel
  have notStarted : ((new {}).after [start]).restartedBy commands = false := by decide +kernel
  have marked : commands.foldl (Command.marked (Text.lines "a\nb\nc".toList).length)
      [3, 1, 3].toFinset = {2, 3} := by
    decide +kernel
  refine ⟨accepted, notStarted, ?_⟩
  rw [← marked]
  exact (breakpoints_form_set {} [] "a\nb\nc" [1, 2, 3] [3, 1, 3] none commands accepted
    notStarted).1

end Session

end Playback
