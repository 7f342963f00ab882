import Playback.Proofs.Recording.Frames
import Playback.Proofs.Recording.Occurrence
import Playback.Proofs.Session.Run
import Playback.Proofs.Stepping.Landing

/-!
# Every session that can be reached is consistent

A session that was never started is empty.  One that was started has a frame and a depth for
every position, stands on a position, and remembers visits that descend from that position
through the recording.  That the visits descend is written nowhere: it follows from every
forward action landing ahead and from going back along the same visits.  It is the reason why
a visit, remembered by line and rank, always leads back to its position.

The main statements are that each change keeps a session consistent and that
therefore every reachable session is, clause by clause.
-/

namespace Playback

namespace Session

/-- What is kept does not depend on what is made of the entries. -/
theorem map_keepVisits {α β : Type} (settings : EngineSettings) (f : α → β)
    (visits : List α) :
    (keepVisits settings visits).map f = keepVisits settings (visits.map f) := by
  rw [keepVisits, keepVisits]
  split
  · rfl
  · exact List.map_take

/-- The latest visit is always kept. -/
theorem head?_keepVisits {α : Type} (settings : EngineSettings) (latest : α)
    (visits : List α) :
    (keepVisits settings (latest :: visits)).head? = some latest := by
  rw [keepVisits]
  split
  case isTrue => rfl
  case isFalse bounded =>
    obtain ⟨limit, same⟩ := Nat.exists_eq_succ_of_ne_zero bounded
    rw [same, List.take_succ_cons, List.head?_cons]

theorem keepVisits_sublist {α : Type} (settings : EngineSettings) (visits : List α) :
    (keepVisits settings visits).Sublist visits := by
  rw [keepVisits]
  split
  · exact List.Sublist.refl _
  · exact List.take_sublist _ _

theorem length_keepVisits_le {α : Type} {settings : EngineSettings}
    (bounded : settings.maxHistory ≠ 0) (visits : List α) :
    (keepVisits settings visits).length ≤ settings.maxHistory := by
  rw [keepVisits, if_neg bounded]
  exact List.length_take_le _ _

/--
The indices that the visits of a session name, latest first.  They descend, and the first of them
is the current one.
-/
structure Trail (session : Session) (trail : List Nat) : Prop where
  named :
    session.history.map (fun visit => Recording.nth session.trace visit.line visit.rank) =
      trail.map Except.ok
  descending : trail.Pairwise (· > ·)
  current : trail.head? = some session.index

variable {session : Session} {trail : List Nat}

theorem Trail.history_ne_nil (along : session.Trail trail) : session.history ≠ [] := by
  intro empty
  have none := along.named
  rw [empty, List.map_nil] at none
  have current := along.current
  rw [List.map_eq_nil_iff.mp none.symm] at current
  cases current

/-- The visit before the current one is found, and the trail goes on from there. -/
theorem Trail.back {current previous : Visit} {older : List Visit}
    (along : session.Trail trail) (visited : session.history = current :: previous :: older) :
    ∃ index rest,
      Recording.nth session.trace previous.line previous.rank = .ok index ∧
        index < session.index ∧
        (session.backAt previous older index).Trail (index :: rest) := by
  obtain ⟨named, descending, start⟩ := along
  rw [visited] at named
  rcases trail with _ | ⟨here, _ | ⟨index, rest⟩⟩
  · simp at named
  · simp at named
  · simp only [List.map_cons, List.cons.injEq] at named
    obtain ⟨_, found, foundOlder⟩ := named
    rw [List.head?_cons, Option.some.injEq] at start
    obtain ⟨below, descendingRest⟩ := List.pairwise_cons.mp descending
    refine ⟨index, rest, found, start ▸ below index List.mem_cons_self, ?_⟩
    refine ⟨?_, descendingRest, rfl⟩
    simp only [backAt, List.map_cons, found, foundOlder]

/-- Every position is named by its visit. -/
theorem nth_visitAt {target : Nat} (inside : target < session.trace.length) :
    Recording.nth session.trace (session.visitAt target).line (session.visitAt target).rank =
      .ok target := by
  apply Recording.nth_rankAt
  simp [visitAt, List.getElem?_eq_getElem inside]

/-- Moving forward puts the new position before those of the trail that are kept. -/
theorem Trail.moved {target : Nat} (along : session.Trail trail)
    (ahead : session.index < target) (inside : target < session.trace.length) :
    (session.movedTo target).Trail (keepVisits session.settings (target :: trail)) := by
  refine ⟨?_, ?_, head?_keepVisits session.settings target trail⟩
  · dsimp only [movedTo]
    rw [map_keepVisits, map_keepVisits, List.map_cons, List.map_cons, nth_visitAt inside,
      along.named]
  · refine List.Pairwise.sublist (keepVisits_sublist session.settings _) ?_
    refine List.pairwise_cons.mpr ⟨?_, along.descending⟩
    intro earlier member
    cases trail with
    | nil => cases member
    | cons here rest =>
        have start : here = session.index := Option.some.inj along.current
        obtain ⟨below, _⟩ := List.pairwise_cons.mp along.descending
        rcases List.mem_cons.mp member with rfl | older
        · exact start ▸ ahead
        · exact Nat.lt_trans (below earlier older) (start ▸ ahead)

/-! ## The invariant -/

/-- What holds of a session that was started. -/
structure Loaded (session : Session) : Prop where
  lines : session.frames.map (·.line) = session.trace
  depths : session.depths = session.frames.map (·.depth)
  firstDepth : ∀ frame ∈ session.frames.head?, frame.depth = 0
  inside : session.index < session.trace.length
  bounded :
    session.settings.maxHistory ≠ 0 → session.history.length ≤ session.settings.maxHistory
  trail : ∃ trail, session.Trail trail

/-- What holds of every session. -/
structure Consistent (session : Session) : Prop where
  status_ne_error : session.status ≠ .error
  untouched : session.status = .uninitialized → session = Session.new session.settings
  loaded : session.status ≠ .uninitialized → session.Loaded
  breakpoints : ∀ line ∈ session.breakpoints.toList, session.hasLine line = true

theorem Loaded.length_depths (loaded : session.Loaded) :
    session.depths.length = session.trace.length := by
  rw [loaded.depths, ← loaded.lines, List.length_map, List.length_map]

theorem Consistent.loaded_of_active (consistent : session.Consistent)
    (active : session.status = .active) : session.Loaded := by
  apply consistent.loaded
  rw [active]
  exact Status.noConfusion

theorem hasLine_iff {line : Nat} :
    session.hasLine line = true ↔ 1 ≤ line ∧ line ≤ session.source.length := by
  rw [hasLine, Bool.and_eq_true, decide_eq_true_eq, decide_eq_true_eq]

/-- A list without a missing line has only lines of the source. -/
theorem firstMissing?_eq_none_iff {sourceLines : Nat} {lines : List Nat} :
    firstMissing? sourceLines lines = none ↔
      ∀ line ∈ lines, 1 ≤ line ∧ line ≤ sourceLines := by
  rw [firstMissing?, List.find?_eq_none]
  refine forall₂_congr fun line _ => ?_
  simp only [Bool.or_eq_true, beq_iff_eq, decide_eq_true_eq]
  omega

/-- The missing line is the first one outside the source. -/
theorem firstMissing?_eq_some_iff {sourceLines line : Nat} {lines : List Nat} :
    firstMissing? sourceLines lines = some line ↔
      ¬(1 ≤ line ∧ line ≤ sourceLines) ∧
        ∃ before later, lines = before ++ line :: later ∧
          ∀ earlier ∈ before, 1 ≤ earlier ∧ earlier ≤ sourceLines := by
  have outside (line : Nat) :
      (line == 0 || decide (sourceLines < line)) = true ↔
        ¬(1 ≤ line ∧ line ≤ sourceLines) := by
    simp only [Bool.or_eq_true, beq_iff_eq, decide_eq_true_eq]
    omega
  rw [firstMissing?, List.find?_eq_some_iff_append, outside]
  simp only [Bool.not_eq_true', Bool.eq_false_iff, ne_eq, outside, not_not]

/-- A fresh start stands on the first position and remembers nothing before it. -/
theorem loaded_startedOn {source : List String} {recording : Recording}
    {frames : List Frame} {breakpoints : List Nat}
    (nonempty : recording.lines ≠ [])
    (framed :
      recording.frames (ScopeTable.ofLines session.settings.tabWidth source) = .ok frames) :
    (session.startedOn source recording.lines frames breakpoints).Loaded where
  lines := Recording.map_line_frames framed
  depths := rfl
  firstDepth := Recording.depth_head_frames framed
  inside := List.length_pos_of_ne_nil nonempty
  bounded := fun bounded => Nat.one_le_iff_ne_zero.mpr bounded
  trail := by
    have first : recording.lines[0]? = some (recording.lines.headD 0) := by
      cases lines : recording.lines with
      | nil => exact (nonempty lines).elim
      | cons line rest => rfl
    have found : Recording.nth recording.lines (recording.lines.headD 0) 0 = .ok 0 :=
      Recording.nth_eq_ok_iff_rankAt.mpr ⟨first, Recording.rankAt_zero⟩
    exact ⟨[0], congrArg (List.cons · []) found, List.pairwise_singleton _ _, rfl⟩

theorem Loaded.moved {target : Nat} (loaded : session.Loaded)
    (ahead : session.index < target) (inside : target < session.trace.length) :
    (session.movedTo target).Loaded := by
  obtain ⟨trail, along⟩ := loaded.trail
  exact
    { loaded with
      inside
      bounded := fun bounded => length_keepVisits_le bounded _
      trail := ⟨_, along.moved ahead inside⟩ }

theorem Loaded.returned {current previous : Visit} {older : List Visit} {index : Nat}
    (loaded : session.Loaded) (visited : session.history = current :: previous :: older)
    (found : Recording.nth session.trace previous.line previous.rank = .ok index) :
    (session.backAt previous older index).Loaded := by
  obtain ⟨trail, along⟩ := loaded.trail
  obtain ⟨earlier, rest, named, below, back⟩ := along.back visited
  obtain rfl : earlier = index := Except.ok.inj (named.symm.trans found)
  have shorter : (previous :: older).length ≤ session.history.length := by
    rw [visited]
    exact Nat.le_succ _
  exact
    { loaded with
      inside := Nat.lt_trans below loaded.inside
      bounded := fun bounded => Nat.le_trans shorter (loaded.bounded bounded)
      trail := ⟨_, back⟩ }

theorem Loaded.withBreakpoints (loaded : session.Loaded) (breakpoints : LineSet) :
    (session.withBreakpoints breakpoints).Loaded := by
  obtain ⟨trail, along⟩ := loaded.trail
  exact { loaded with trail := ⟨trail, { along with }⟩ }

/-- Where an active session can land lies ahead and inside the recording. -/
theorem Loaded.land {action : Action} {breakpoints : LineSet} {target : Nat}
    (loaded : session.Loaded)
    (lands : { session.course with breakpoints }.land action session.index = .moved target) :
    session.index < target ∧ target < session.trace.length :=
  Course.land_moved loaded.length_depths loaded.inside lands

/-- A session that was never started has no line that a breakpoint could stand at. -/
theorem breakpoints_eq_empty_of_new {settings : EngineSettings} {breakpoints : LineSet}
    (inSource : ∀ line ∈ breakpoints.toList, (new settings).hasLine line = true) :
    breakpoints = .empty := by
  apply LineSet.eq_of_toList_eq
  refine List.eq_nil_iff_forall_not_mem.mpr fun line member => ?_
  obtain ⟨positive, bounded⟩ := hasLine_iff.mp (inSource line member)
  exact Nat.not_succ_le_zero _ (Nat.le_trans positive bounded)

theorem Consistent.marked {breakpoints : LineSet} (consistent : session.Consistent)
    (valid : ∀ line ∈ breakpoints.toList,
      line ∈ session.breakpoints.toList ∨ session.hasLine line = true) :
    (session.withBreakpoints breakpoints).Consistent := by
  have inSource : ∀ line ∈ breakpoints.toList, session.hasLine line = true := by
    intro line member
    rcases valid line member with known | inSource
    · exact consistent.breakpoints line known
    · exact inSource
  refine ⟨consistent.status_ne_error, ?_, ?_, inSource⟩
  · intro untouched
    have fresh := consistent.untouched untouched
    rw [fresh] at inSource
    have none := breakpoints_eq_empty_of_new inSource
    have unmarked : session.breakpoints = breakpoints := by
      rw [fresh, none]
      rfl
    rw [withBreakpoints_eq_self unmarked]
    exact fresh
  · intro started
    exact (consistent.loaded started).withBreakpoints breakpoints

/-- Every change keeps a session consistent. -/
theorem Change.consistent {event : Option Event} {changed : Session}
    (change : session.Change event changed) (consistent : session.Consistent) :
    changed.Consistent := by
  cases change with
  | unchanged => exact consistent
  | started nonempty valid framed =>
      refine ⟨Status.noConfusion, Status.noConfusion, fun _ => loaded_startedOn nonempty framed,
        ?_⟩
      intro line member
      rw [hasLine_iff]
      exact firstMissing?_eq_none_iff.mp valid line (LineSet.mem_toList_ofList.mp member)
  | moved active lands _ =>
      have loaded := consistent.loaded_of_active active
      obtain ⟨ahead, inside⟩ := loaded.land lands
      refine ⟨consistent.status_ne_error, ?_, fun _ => loaded.moved ahead inside,
        consistent.breakpoints⟩
      intro untouched
      cases active.symm.trans untouched
  | returned active visited found =>
      refine ⟨consistent.status_ne_error, ?_,
        fun _ => (consistent.loaded_of_active active).returned visited found,
        consistent.breakpoints⟩
      intro untouched
      cases active.symm.trans untouched
  | lost active visited absent =>
      obtain ⟨trail, along⟩ := (consistent.loaded_of_active active).trail
      obtain ⟨index, _, found, _⟩ := along.back visited
      cases found.symm.trans absent
  | completed active =>
      have loaded := consistent.loaded_of_active active
      obtain ⟨trail, along⟩ := loaded.trail
      exact ⟨Status.noConfusion, Status.noConfusion,
        fun _ => { loaded with trail := ⟨trail, { along with }⟩ }, consistent.breakpoints⟩
  | marked valid => exact consistent.marked valid

/-! ## Reachable sessions -/

theorem consistent_new (settings : EngineSettings) : (new settings).Consistent where
  status_ne_error := Status.noConfusion
  untouched := fun _ => rfl
  loaded := fun started => (started rfl).elim
  breakpoints := by simp [new]

/-- A run keeps a session consistent. -/
theorem Consistent.after (consistent : session.Consistent) (commands : List Command) :
    (session.after commands).Consistent :=
  after_of_change (fun change consistent => change.consistent consistent) consistent commands

/-- Every reachable session is consistent. -/
theorem consistent_after (settings : EngineSettings) (commands : List Command) :
    ((new settings).after commands).Consistent :=
  (consistent_new settings).after commands

/-- Going back along the trail of a consistent session, the earlier visit is always found. -/
theorem Consistent.stepBack_cases (consistent : session.Consistent) :
    (session.status ≠ .active ∧ session.stepBack = session.idle) ∨
      (session.status = .active ∧ session.history.length ≤ 1 ∧
        session.stepBack = session.stay) ∨
      (session.status = .active ∧ ∃ current previous older index,
        session.history = current :: previous :: older ∧
          index < session.index ∧
          session.stepBack =
            { answer :=
                (session.backAt previous older index).report (some previous.line) .active
              session := session.backAt previous older index
              event := some { kind := .stepBack, line := previous.line, index } }) := by
  rcases session.stepBack_cases with
    ⟨inactive, same⟩ | ⟨active, single, same⟩ |
    ⟨active, current, previous, older, visited, _⟩
  · exact Or.inl ⟨inactive, same⟩
  · exact Or.inr (Or.inl ⟨active, single, same⟩)
  · obtain ⟨trail, along⟩ := (consistent.loaded_of_active active).trail
    obtain ⟨index, _, found, below, _⟩ := along.back visited
    exact Or.inr (Or.inr ⟨active, current, previous, older, index, visited, below,
      stepBack_eq_of_found active visited found⟩)

theorem Consistent.outcome_stepBack_ne_error (consistent : session.Consistent) :
    session.stepBack.answer.outcome ≠ .error := by
  rcases consistent.stepBack_cases with
    ⟨_, same⟩ | ⟨_, _, same⟩ | ⟨_, current, previous, older, index, _, _, same⟩ <;>
    rw [same] <;> exact Outcome.noConfusion

theorem Loaded.trace_ne_nil (loaded : session.Loaded) : session.trace ≠ [] :=
  List.ne_nil_of_length_pos (Nat.zero_lt_of_lt loaded.inside)

theorem Loaded.length_frames (loaded : session.Loaded) :
    session.frames.length = session.trace.length := by
  rw [← loaded.lines, List.length_map]

/-- The frame of a position has its depth and its line. -/
theorem Loaded.frame_at {index : Nat} {frame : Frame} (loaded : session.Loaded)
    (held : session.frames[index]? = some frame) :
    session.depths[index]? = some frame.depth ∧ session.trace[index]? = some frame.line := by
  rw [loaded.depths, ← loaded.lines, List.getElem?_map, List.getElem?_map, held]
  exact ⟨rfl, rfl⟩

theorem Loaded.depth_zero (loaded : session.Loaded) :
    session.frames[0]?.map (·.depth) = some 0 := by
  cases frames : session.frames with
  | nil =>
      have lines := loaded.lines
      rw [frames] at lines
      exact (loaded.trace_ne_nil lines.symm).elim
  | cons first rest =>
      have zero := loaded.firstDepth first (by rw [frames]; rfl)
      simp [zero]

/-- The trail of a session, read from the oldest visit on. -/
theorem Trail.oldest_first (along : session.Trail trail) :
    session.history.reverse.map
        (fun visit => Recording.nth session.trace visit.line visit.rank) =
      trail.reverse.map Except.ok ∧
    trail.reverse.Pairwise (· < ·) ∧
    trail.reverse.getLast? = some session.index := by
  refine ⟨?_, List.pairwise_reverse.mpr along.descending, ?_⟩
  · rw [List.map_reverse, List.map_reverse, along.named]
  · rw [List.getLast?_reverse, along.current]

/--
Whatever commands a session is given, refused ones included: never started, it is empty; otherwise
it has a frame and a depth for each of its positions, the first of them at depth zero, it stands on
a position, and its visits, at most as many as the settings allow, name indices that ascend to
the current one.  Breakpoints always stand at lines of the source.
-/
theorem invariants_after (settings : EngineSettings) (commands : List Command) :
    let session : Session := (new settings).after commands
    session.settings = settings ∧
    (session.status = .uninitialized →
      session.source = [] ∧ session.trace = [] ∧ session.frames = [] ∧
        session.history = [] ∧ session.breakpoints.toList = [] ∧ session.index = 0) ∧
    (session.status ≠ .uninitialized →
      session.trace ≠ [] ∧
      session.frames.length = session.trace.length ∧
      session.depths.length = session.trace.length ∧
      (∀ (index : Nat) (frame : Frame), session.frames[index]? = some frame →
        session.depths[index]? = some frame.depth ∧
          session.trace[index]? = some frame.line) ∧
      session.frames[0]?.map (·.depth) = some 0 ∧
      session.index < session.trace.length ∧
      session.history ≠ [] ∧
      (0 < settings.maxHistory → session.history.length ≤ settings.maxHistory) ∧
      ∃ indices : List Nat,
        session.history.reverse.map
            (fun visit => Recording.nth session.trace visit.line visit.rank) =
          indices.map Except.ok ∧
        indices.Pairwise (· < ·) ∧
        indices.getLast? = some session.index) ∧
    ∀ line ∈ session.breakpoints.toList, 1 ≤ line ∧ line ≤ session.source.length := by
  intro session
  have consistent : session.Consistent := consistent_after settings commands
  have kept : session.settings = settings := settings_after (new settings) commands
  refine ⟨kept, ?_, ?_, ?_⟩
  · intro untouched
    rw [consistent.untouched untouched]
    exact ⟨rfl, rfl, rfl, rfl, rfl, rfl⟩
  · intro started
    have loaded := consistent.loaded started
    obtain ⟨trail, along⟩ := loaded.trail
    refine ⟨loaded.trace_ne_nil, loaded.length_frames, loaded.length_depths,
      fun _ _ held => loaded.frame_at held, loaded.depth_zero, loaded.inside,
      along.history_ne_nil, ?_, trail.reverse, along.oldest_first⟩
    intro limited
    rw [← kept] at limited ⊢
    exact loaded.bounded (Nat.ne_of_gt limited)
  · intro line member
    exact hasLine_iff.mp (consistent.breakpoints line member)

end Session

end Playback
