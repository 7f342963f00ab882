import Mathlib.Data.Finset.Card
import Mathlib.Data.List.Chain
import Playback.Proofs.Recording.CallStack

/-!
# Calls of functions at the top level

As long as every function that is entered is headed by a line at indent zero, calls are left
together or not at all.  A line at a positive indent leaves none of the open calls, and a line at
indent zero that leaves any leaves them all.  So the depth of a position can be counted without a
stack: it is the number of calls entered since the recording last returned to indent zero.

The count is written down independently of the open calls, as a set of positions.  Two things are
shown of a step forward, what it does to the open calls and what it does to that set, and the main
statement follows by induction.  A recording that calls one function at a time then has depth
one inside its calls and depth zero outside of them.
-/

namespace Playback.Recording

variable {table : ScopeTable} {previous line : Nat} {before after : List Call}

/-- Going from line `previous` to `line` comes back to indent zero, from the right or from above. -/
def Returns (table : ScopeTable) (previous line : Nat) : Prop :=
  ¬Enters table previous line ∧ (table.get line).indent = 0 ∧
    (0 < (table.get previous).indent ∨ previous < line)

instance : Decidable (Enters table previous line) :=
  inferInstanceAs (Decidable (_ ∧ _ ∧ _))

instance : Decidable (Returns table previous line) :=
  inferInstanceAs (Decidable (_ ∧ _ ∧ _))

/-- Whether all open calls are calls of functions at indent zero. -/
def Outermost (calls : List Call) : Prop :=
  ∀ call ∈ calls, call.indent = 0

/-- Returning to indent zero is leaving for a line at indent zero. -/
theorem returns_iff :
    Returns table previous line ↔
      Leaves table previous line ∧ (table.get line).indent = 0 := by
  constructor
  · rintro ⟨stays, zero, comes⟩
    exact ⟨⟨stays, zero.symm ▸ comes⟩, zero⟩
  · rintro ⟨⟨stays, comes⟩, zero⟩
    exact ⟨stays, zero, zero ▸ comes⟩

/-- Returning to indent zero leaves all open calls, whatever they are. -/
theorem Succeeds.eq_nil_of_returns (succeeds : Succeeds table previous line before after)
    (returns : Returns table previous line) : after = [] := by
  obtain ⟨leaves, zero⟩ := returns_iff.mp returns
  have unwound := succeeds.left leaves
  rw [zero] at unwound
  exact unwound.eq_nil

/-- A positive indent lies strictly right of all calls at indent zero, so it leaves none of them. -/
theorem Unwound.eq_of_outermost {indent : Nat} (unwound : Unwound indent before after)
    (outermost : Outermost before) (inside : 0 < indent) : after = before := by
  obtain ⟨left, split, right⟩ := unwound.run
  cases left with
  | nil => exact split.symm
  | cons innermost _ =>
      have reached : indent ≤ innermost.indent := right innermost List.mem_cons_self
      rw [outermost innermost (split ▸ List.mem_append_left after List.mem_cons_self)] at reached
      exact (Nat.not_lt_of_le reached inside).elim

/-- What neither enters a call nor returns to indent zero changes nothing. -/
theorem Succeeds.eq_of_stays (succeeds : Succeeds table previous line before after)
    (outermost : Outermost before) (stays : ¬Enters table previous line)
    (remains : ¬Returns table previous line) : after = before := by
  by_cases leaves : Leaves table previous line
  · have inside : 0 < (table.get line).indent :=
      Nat.pos_of_ne_zero fun zero => remains (returns_iff.mpr ⟨leaves, zero⟩)
    exact (succeeds.left leaves).eq_of_outermost outermost inside
  · exact succeeds.kept stays leaves

/-- As long as only functions at indent zero are entered, no others are open. -/
theorem Succeeds.outermost (succeeds : Succeeds table previous line before after)
    (outermost : Outermost before)
    (headed : Enters table previous line → (table.get line).indent = 0) : Outermost after := by
  by_cases enters : Enters table previous line
  · rw [succeeds.entered enters]
    exact List.forall_mem_cons.mpr ⟨headed enters, outermost⟩
  by_cases returns : Returns table previous line
  · rw [succeeds.eq_nil_of_returns returns]
    exact List.forall_mem_nil _
  · rw [succeeds.eq_of_stays outermost enters returns]
    exact outermost

section Counting

variable {lines : List Nat} {index : Nat}

/-! ## Positions entered and not returned from -/

/-- Whether a recording goes in a certain way onto a position from the one before. -/
def GoesOnto (lines : List Nat) (goes : Nat → Nat → Prop) : (position : Nat) → Prop
  | 0 => False
  | position + 1 =>
    ∃ previous ∈ lines[position]?, ∃ line ∈ lines[position + 1]?, goes previous line

instance (lines : List Nat) (goes : Nat → Nat → Prop)
    [∀ previous line, Decidable (goes previous line)] :
    (position : Nat) → Decidable (GoesOnto lines goes position)
  | 0 => inferInstanceAs (Decidable False)
  | position + 1 =>
    inferInstanceAs
      (Decidable
        (∃ previous ∈ lines[position]?, ∃ line ∈ lines[position + 1]?, goes previous line))

theorem goesOnto_succ_iff (goes : Nat → Nat → Prop) (held : lines[index]? = some previous)
    (next : lines[index + 1]? = some line) :
    GoesOnto lines goes (index + 1) ↔ goes previous line := by
  simp [GoesOnto, held, next]

/-- Whether every function that a recording enters is headed by a line at indent zero. -/
def EntersAtZero (table : ScopeTable) (lines : List Nat) : Prop :=
  ∀ position < lines.length, GoesOnto lines (Enters table) position →
    ∀ line ∈ lines[position]?, (table.get line).indent = 0

instance : Decidable (EntersAtZero table lines) :=
  inferInstanceAs (Decidable (∀ position < lines.length, _))

/-- The positions up to `index` that enter a call, with no return to indent zero since. -/
def pending (table : ScopeTable) (lines : List Nat) (index : Nat) : Finset Nat :=
  (Finset.range (index + 1)).filter fun entry =>
    GoesOnto lines (Enters table) entry ∧
      ∀ later ≤ index, entry < later → ¬GoesOnto lines (Returns table) later

theorem mem_pending {entry : Nat} :
    entry ∈ pending table lines index ↔
      entry ≤ index ∧ GoesOnto lines (Enters table) entry ∧
        ∀ later ≤ index, entry < later → ¬GoesOnto lines (Returns table) later := by
  rw [pending, Finset.mem_filter, Finset.mem_range, Nat.lt_succ_iff]

theorem pending_zero : pending table lines 0 = ∅ := by
  rw [Finset.eq_empty_iff_forall_notMem]
  intro entry member
  obtain ⟨first, enters, _⟩ := mem_pending.mp member
  rw [Nat.le_zero.mp first] at enters
  exact enters

theorem succ_notMem_pending : index + 1 ∉ pending table lines index :=
  fun member => Nat.not_succ_le_self index (mem_pending.mp member).1

/-- A return to indent zero is a return from all calls entered before. -/
theorem pending_of_returns (stays : ¬GoesOnto lines (Enters table) (index + 1))
    (returns : GoesOnto lines (Returns table) (index + 1)) :
    pending table lines (index + 1) = ∅ := by
  rw [Finset.eq_empty_iff_forall_notMem]
  intro entry member
  obtain ⟨reached, enters, unreturned⟩ := mem_pending.mp member
  rcases Nat.lt_or_eq_of_le reached with earlier | rfl
  · exact unreturned (index + 1) (Nat.le_refl _) earlier returns
  · exact stays enters

/-- Without a return, what was pending still is. -/
theorem mem_pending_succ (remains : ¬GoesOnto lines (Returns table) (index + 1)) {entry : Nat} :
    entry ∈ pending table lines (index + 1) ↔
      entry ∈ pending table lines index ∨
        entry = index + 1 ∧ GoesOnto lines (Enters table) (index + 1) := by
  rw [mem_pending, mem_pending]
  constructor
  · rintro ⟨reached, enters, unreturned⟩
    rcases Nat.lt_or_eq_of_le reached with earlier | rfl
    · exact Or.inl ⟨Nat.le_of_lt_succ earlier, enters,
        fun later inside => unreturned later (Nat.le_succ_of_le inside)⟩
    · exact Or.inr ⟨rfl, enters⟩
  · rintro (⟨reached, enters, unreturned⟩ | ⟨rfl, enters⟩)
    · refine ⟨Nat.le_succ_of_le reached, enters, fun later inside since => ?_⟩
      rcases Nat.lt_or_eq_of_le inside with earlier | rfl
      · exact unreturned later (Nat.le_of_lt_succ earlier) since
      · exact remains
    · exact ⟨Nat.le_refl _, enters, fun later inside since => (Nat.not_lt_of_le inside since).elim⟩

theorem pending_of_enters (enters : GoesOnto lines (Enters table) (index + 1))
    (remains : ¬GoesOnto lines (Returns table) (index + 1)) :
    pending table lines (index + 1) = insert (index + 1) (pending table lines index) := by
  ext entry
  rw [mem_pending_succ remains, Finset.mem_insert, or_comm, and_iff_left enters]

theorem pending_of_stays (stays : ¬GoesOnto lines (Enters table) (index + 1))
    (remains : ¬GoesOnto lines (Returns table) (index + 1)) :
    pending table lines (index + 1) = pending table lines index := by
  ext entry
  rw [mem_pending_succ remains]
  exact or_iff_left fun new => stays new.2

/-- One step changes the number of open calls as it changes the number of pending positions. -/
theorem Succeeds.length_eq_card (succeeds : Succeeds table previous line before after)
    (held : lines[index]? = some previous) (next : lines[index + 1]? = some line)
    (outermost : Outermost before)
    (counted : before.length = (pending table lines index).card) :
    after.length = (pending table lines (index + 1)).card := by
  have entry := goesOnto_succ_iff (Enters table) held next
  have exit := goesOnto_succ_iff (Returns table) held next
  by_cases enters : Enters table previous line
  · have remains : ¬Returns table previous line := fun returns => returns.1 enters
    rw [pending_of_enters (entry.mpr enters) (exit.not.mpr remains),
      Finset.card_insert_of_notMem succ_notMem_pending, succeeds.entered enters,
      List.length_cons, counted]
  by_cases returns : Returns table previous line
  · rw [pending_of_returns (entry.not.mpr enters) (exit.mpr returns),
      succeeds.eq_nil_of_returns returns, Finset.card_empty, List.length_nil]
  · rw [pending_of_stays (entry.not.mpr enters) (exit.not.mpr returns),
      succeeds.eq_of_stays outermost enters returns, counted]

/-- At every position, the open calls are as many as the positions pending there. -/
theorem length_openCalls_at {calls : List Call} (headed : EntersAtZero table lines)
    (held : lines[index]? = some line) (opened : (openCalls table lines)[index]? = some calls) :
    Outermost calls ∧ calls.length = (pending table lines index).card := by
  -- That only functions at indent zero are open is carried along: without it a line at a positive
  -- indent could leave some of the calls.
  induction index generalizing line calls with
  | zero =>
      have noneOpen : calls = [] := by
        cases lines with
        | nil => cases held
        | cons first rest => exact (Option.some.inj opened).symm
      rw [noneOpen, pending_zero]
      exact ⟨List.forall_mem_nil _, rfl⟩
  | succ index induction =>
      have inside : index + 1 < lines.length := (List.getElem?_eq_some_iff.mp held).1
      have insideBefore : index < lines.length := Nat.lt_of_succ_lt inside
      have heldBefore := List.getElem?_eq_getElem insideBefore
      obtain ⟨callsBefore, openedBefore⟩ := exists_openCalls table insideBefore
      obtain ⟨outermost, counted⟩ := induction heldBefore openedBefore
      obtain rfl := Option.some.inj
        ((getElem?_openCalls_succ heldBefore held openedBefore).symm.trans opened)
      have succeeds := succeeds_nextCalls table callsBefore lines[index] line
      refine ⟨succeeds.outermost outermost fun enters => ?_,
        succeeds.length_eq_card heldBefore held outermost counted⟩
      exact headed _ inside ((goesOnto_succ_iff _ heldBefore held).mpr enters) line held

end Counting

/-! ## One call at a time -/

/-- A piece of a recording that runs one function at most. -/
inductive Stretch
  /-- A line outside of all functions. -/
  | outside (line : Nat)
  /-- A call, by the head of the function and the lines of its body that were run. -/
  | call (head : Nat) (body : List Nat)
  deriving DecidableEq, Repr

namespace Stretch

def first : Stretch → Nat
  | outside line => line
  | call head _ => head

/-- The lines of a stretch after the first one. -/
def body : Stretch → List Nat
  | outside _ => []
  | call _ body => body

def lines (stretch : Stretch) : List Nat :=
  stretch.first :: stretch.body

def last (stretch : Stretch) : Nat :=
  stretch.body.getLastD stretch.first

/-- How deep every line of a stretch lies. -/
def depth : Stretch → Nat
  | outside _ => 0
  | call _ _ => 1

/-- The calls that are open on every line of a stretch. -/
def calls : Stretch → List Call
  | outside _ => []
  | call head _ => [{ line := head, indent := 0 }]

/-- A stretch that starts at indent zero, goes on further right and enters nothing on its way. -/
structure Sound (table : ScopeTable) (stretch : Stretch) : Prop where
  first_zero : (table.get stretch.first).indent = 0
  body_pos : ∀ line ∈ stretch.body, 0 < (table.get line).indent
  body_stays : stretch.lines.IsChain fun previous line => ¬Enters table previous line

/--
Whether a stretch can come after another one.  A call is entered from outside, and it is followed
by a line outside, which lies below the head if no line of the body was run.
-/
def Follows (table : ScopeTable) : (stretch next : Stretch) → Prop
  | outside previous, outside line => ¬Enters table previous line
  | outside previous, call head _ => Enters table previous head
  | call head body, outside line =>
    ¬Enters table (body.getLastD head) line ∧ (body = [] → head < line)
  | call _ _, call _ _ => False

variable {stretch next : Stretch}

instance : Decidable (stretch.Sound table) :=
  decidable_of_iff (_ ∧ _ ∧ _)
    ⟨fun sound => ⟨sound.1, sound.2.1, sound.2.2⟩,
      fun sound => ⟨sound.first_zero, sound.body_pos, sound.body_stays⟩⟩

instance : (stretch next : Stretch) → Decidable (stretch.Follows table next)
  | outside _, outside _ => inferInstanceAs (Decidable (¬_))
  | outside _, call _ _ => inferInstanceAs (Decidable (Enters ..))
  | call _ _, outside _ => inferInstanceAs (Decidable (_ ∧ _))
  | call _ _, call _ _ => inferInstanceAs (Decidable False)

theorem length_calls (stretch : Stretch) : stretch.calls.length = stretch.depth := by
  cases stretch <;> rfl

theorem outermost_calls (stretch : Stretch) : Outermost stretch.calls := by
  cases stretch with
  | outside line => exact List.forall_mem_nil _
  | call head body => exact List.forall_mem_singleton.mpr rfl

/-- Lines further right that enter nothing keep what is open. -/
theorem callsFrom_body {calls : List Call} {body : List Nat} (outermost : Outermost calls)
    (inside : ∀ line ∈ body, 0 < (table.get line).indent)
    (stays : (previous :: body).IsChain fun previous line => ¬Enters table previous line)
    (rest : List Nat) :
    callsFrom table calls previous (body ++ rest) =
      List.replicate body.length calls ++ callsFrom table calls (body.getLastD previous) rest := by
  induction body generalizing previous with
  | nil => rfl
  | cons line body induction =>
      obtain ⟨staysHere, staysLater⟩ := List.isChain_cons_cons.mp stays
      obtain ⟨insideHere, insideLater⟩ := List.forall_mem_cons.mp inside
      have remains : ¬Returns table previous line :=
        fun returns => Nat.ne_of_gt insideHere returns.2.1
      have kept : nextCalls table calls previous line = calls :=
        (succeeds_nextCalls table calls previous line).eq_of_stays outermost staysHere remains
      rw [List.cons_append, callsFrom, kept, induction insideLater staysLater,
        List.length_cons, List.replicate_succ, List.cons_append, List.getLastD_cons]

/-- A line outside that follows a call returns from it. -/
theorem Sound.returns {head line : Nat} {body : List Nat} (sound : (call head body).Sound table)
    (zero : (table.get line).indent = 0) (follows : (call head body).Follows table (outside line)) :
    Returns table (call head body).last line := by
  refine ⟨follows.1, zero, ?_⟩
  by_cases ran : body = []
  · rw [last, ran]
    exact Or.inr (follows.2 ran)
  · have final : (call head body).last = body.getLast ran := by
      rw [last, List.getLastD_eq_getLast?]
      exact congrArg (Option.getD · head) (List.getLast?_eq_getLast_of_ne_nil ran)
    rw [final]
    exact Or.inl (sound.body_pos _ (List.getLast_mem ran))

/-- Coming to a stretch from the one before opens and leaves calls as the stretch tells. -/
theorem nextCalls_first (sound : stretch.Sound table) (soundNext : next.Sound table)
    (follows : stretch.Follows table next) :
    nextCalls table stretch.calls stretch.last next.first = next.calls := by
  have succeeds := succeeds_nextCalls table stretch.calls stretch.last next.first
  cases next with
  | outside line =>
      cases stretch with
      | outside previous =>
          by_cases returns : Returns table previous line
          · exact succeeds.eq_nil_of_returns returns
          · exact succeeds.eq_of_stays (outermost_calls _) follows returns
      | call head body =>
          exact succeeds.eq_nil_of_returns (sound.returns soundNext.first_zero follows)
  | call head body =>
      cases stretch with
      | outside previous =>
          rw [succeeds.entered follows, soundNext.first_zero]
          rfl
      | call _ _ => exact follows.elim

/-- The same calls are open on all lines of a stretch. -/
theorem callsFrom_lines (sound : stretch.Sound table) (soundNext : next.Sound table)
    (follows : stretch.Follows table next) (rest : List Nat) :
    callsFrom table stretch.calls stretch.last (next.lines ++ rest) =
      List.replicate next.lines.length next.calls ++
        callsFrom table next.calls next.last rest := by
  rw [lines, List.cons_append, callsFrom, nextCalls_first sound soundNext follows,
    callsFrom_body next.outermost_calls soundNext.body_pos soundNext.body_stays]
  rfl

/-- The depths along the stretches that come after one are the depths of these stretches. -/
theorem length_callsFrom_flatMap {rest : List Stretch}
    (sound : ∀ next ∈ stretch :: rest, next.Sound table)
    (chain : (stretch :: rest).IsChain (Follows table)) :
    (callsFrom table stretch.calls stretch.last (rest.flatMap lines)).map List.length =
      rest.flatMap fun next => List.replicate next.lines.length next.depth := by
  induction rest generalizing stretch with
  | nil => rfl
  | cons next rest induction =>
      obtain ⟨follows, chainLater⟩ := List.isChain_cons_cons.mp chain
      obtain ⟨soundHere, soundLater⟩ := List.forall_mem_cons.mp sound
      have soundNext : next.Sound table := soundLater next List.mem_cons_self
      rw [List.flatMap_cons, List.flatMap_cons, callsFrom_lines soundHere soundNext follows,
        List.map_append, induction soundLater chainLater, List.map_replicate, length_calls]

end Stretch

/-- A recording that starts outside of all functions and calls no function from inside another. -/
structure Unnested (table : ScopeTable) (stretches : List Stretch) : Prop where
  starts_outside : ∀ stretch ∈ stretches.head?, stretch.depth = 0
  sound : ∀ stretch ∈ stretches, stretch.Sound table
  chain : stretches.IsChain (Stretch.Follows table)

instance {stretches : List Stretch} : Decidable (Unnested table stretches) :=
  decidable_of_iff (_ ∧ _ ∧ _)
    ⟨fun unnested => ⟨unnested.1, unnested.2.1, unnested.2.2⟩,
      fun unnested => ⟨unnested.starts_outside, unnested.sound, unnested.chain⟩⟩

theorem Unnested.length_openCalls {stretches : List Stretch}
    (unnested : Unnested table stretches) :
    (openCalls table (stretches.flatMap Stretch.lines)).map List.length =
      stretches.flatMap fun stretch => List.replicate stretch.lines.length stretch.depth := by
  cases stretches with
  | nil => rfl
  | cons stretch rest =>
      cases stretch with
      | outside line =>
          exact congrArg (List.cons 0)
            (Stretch.length_callsFrom_flatMap unnested.sound unnested.chain)
      | call head body => cases unnested.starts_outside _ rfl

/--
If a recording enters no functions but those with a head at indent zero, the depth of a position is
the number of calls entered up to it that the recording has not returned to indent zero since.  If
it calls one function at a time and from outside, the depth is zero outside and one on
every line of a call.
-/
theorem guessed_depths_counted (table : ScopeTable) (lines : List Nat) :
    ∃ frames : List Frame, Recording.frames table { lines } = .ok frames ∧
      frames.length = lines.length ∧
      (EntersAtZero table lines → ∀ (index : Nat) (frame : Frame), frames[index]? = some frame →
        frame.depth = (pending table lines index).card) ∧
      ∀ stretches : List Stretch, lines = stretches.flatMap Stretch.lines →
        Unnested table stretches →
        frames.map (·.depth) =
          stretches.flatMap fun stretch =>
            List.replicate stretch.lines.length stretch.depth := by
  have framed : Recording.frames table { lines } = .ok (guessedFrames table lines) := rfl
  refine ⟨_, framed, length_frames framed, fun headed index frame known => ?_, ?_⟩
  · obtain ⟨line, calls, held, opened, rfl⟩ := getElem?_guessedFrames_eq_some_iff.mp known
    exact (length_openCalls_at headed held opened).2
  · rintro stretches rfl unnested
    rw [map_depth_guessedFrames, unnested.length_openCalls]

/-- One call between two visits of the line that makes it, and a line after that. -/
theorem guessed_depths_around_a_call :
    let table : ScopeTable :=
      { scopes := [{ kind := .function, opensBlock := true }, { indent := 4 }, {}, {}] }
    let lines := [3, 1, 2, 3, 4]
    let stretches : List Stretch := [.outside 3, .call 1 [2], .outside 3, .outside 4]
    EntersAtZero table lines ∧ lines = stretches.flatMap Stretch.lines ∧
      Unnested table stretches ∧
      ∃ frames : List Frame, Recording.frames table { lines } = .ok frames ∧
        (∀ frame : Frame, frames[2]? = some frame →
          frame.depth = (pending table lines 2).card) ∧
        frames.map (·.depth) = [0, 1, 1, 0, 0] := by
  intro table lines stretches
  have headed : EntersAtZero table lines := by decide
  have unnested : Unnested table stretches := by decide
  obtain ⟨frames, framed, _, counted, nested⟩ := guessed_depths_counted table lines
  exact ⟨headed, rfl, unnested, frames, framed, counted headed 2, nested stretches rfl unnested⟩

end Playback.Recording
