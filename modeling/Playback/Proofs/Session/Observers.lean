import Mathlib.Data.List.Induction
import Mathlib.Data.List.Nodup
import Playback.Session.Observers

/-!
# Every observer is called with its events and with nothing else

Observers come and go while events are announced, and each of them may fail on any event.  This
module follows a whole run of registrations, removals and announcements.  Numbers are given
out in ascending order and never again, and the observers there are stand in the order of
their numbers.  The calls that one observer receives are therefore told by its registration, the
events after it and its removal: no other observer has any part in them.

The last fact rests on one step.  As long as an observer is registered, an announcement
calls it once, and once it is removed nothing brings its number back.
-/

namespace Playback

/-- The calls of an observer that is told events one after the other under a number. -/
def Observer.hear (observer : Observer) (number : Nat) : List Event → List Delivery
  | [] => []
  | event :: rest =>
    { observer := number, event, reaction := observer.react observer.told event } ::
      (observer.tell event).hear number rest

namespace Observers

/-- What can be done with observers. -/
inductive Operation
  | register (observer : Observer)
  | unregister (number : Nat)
  | notify (event : Event)

namespace Operation

def removes (number : Nat) : Operation → Bool
  | .unregister other => other == number
  | .register _ | .notify _ => false

def event? : Operation → Option Event
  | .notify event => some event
  | .register _ | .unregister _ => none

/-- Operations that differ at most in the observer that is registered. -/
inductive Alike : Operation → Operation → Prop
  | register (left right : Observer) : Alike (.register left) (.register right)
  | unregister (number : Nat) : Alike (.unregister number) (.unregister number)
  | notify (event : Event) : Alike (.notify event) (.notify event)

end Operation

/-- The observers after an operation. -/
def apply (observers : Observers) : Operation → Observers
  | .register observer => (observers.register observer).2
  | .unregister number => (observers.unregister number).2
  | .notify event => (observers.notify event).2

/-- The calls that an operation makes, in order. -/
def callsOf (observers : Observers) : Operation → List Delivery
  | .notify event => (observers.notify event).1
  | .register _ | .unregister _ => []

/-- The numbers that an operation gives out. -/
def numbersOf (observers : Observers) : Operation → List Nat
  | .register observer => [(observers.register observer).1]
  | .unregister _ | .notify _ => []

def after (observers : Observers) (operations : List Operation) : Observers :=
  operations.foldl apply observers

/-- What is shown of each operation of a run, put together. -/
def along {α : Type} (shown : Observers → Operation → List α) (observers : Observers) :
    List Operation → List α
  | [] => []
  | operation :: rest =>
    shown observers operation ++ along shown (observers.apply operation) rest

/-- The calls that a run makes, in order. -/
def calls (observers : Observers) (operations : List Operation) : List Delivery :=
  along callsOf observers operations

/-- The numbers that a run gives out, in order. -/
def given (observers : Observers) (operations : List Operation) : List Nat :=
  along numbersOf observers operations

/-- The numbers of the observers there are, in order of registration. -/
def numbers (observers : Observers) : List Nat :=
  observers.entries.map Prod.fst

/-- The events that a run announces before it removes a number. -/
def eventsUntil (number : Nat) (operations : List Operation) : List Event :=
  (operations.takeWhile fun operation => !operation.removes number).filterMap (·.event?)

variable {observers : Observers} {number : Nat} {operations : List Operation}

theorem after_append (observers : Observers) (operations more : List Operation) :
    observers.after (operations ++ more) = (observers.after operations).after more :=
  List.foldl_append

theorem after_concat (observers : Observers) (operations : List Operation)
    (operation : Operation) :
    observers.after (operations ++ [operation]) = (observers.after operations).apply operation :=
  observers.after_append operations [operation]

theorem along_append {α : Type} (shown : Observers → Operation → List α)
    (observers : Observers) (operations more : List Operation) :
    along shown observers (operations ++ more) =
      along shown observers operations ++ along shown (observers.after operations) more := by
  induction operations generalizing observers with
  | nil => rfl
  | cons operation rest induction =>
      rw [List.cons_append, along, along, induction, List.append_assoc]
      rfl

/-! ## One operation -/

@[simp]
theorem numbers_register (observer : Observer) :
    (observers.apply (.register observer)).numbers = observers.numbers ++ [observers.next] :=
  List.map_append

@[simp]
theorem numbers_unregister (number : Nat) :
    (observers.apply (.unregister number)).numbers =
      observers.numbers.filter (· != number) := by
  rw [numbers, numbers, List.filter_map]
  rfl

@[simp]
theorem numbers_notify (event : Event) :
    (observers.apply (.notify event)).numbers = observers.numbers := by
  rw [numbers, apply, notify, List.map_map]
  rfl

/-- Observers whose numbers ascend and are below the one to be given out next. -/
structure Ordered (observers : Observers) : Prop where
  ascending : observers.numbers.Pairwise (· < ·)
  below : ∀ number ∈ observers.numbers, number < observers.next

theorem ordered_empty : Ordered {} where
  ascending := List.Pairwise.nil
  below := fun _ member => (List.not_mem_nil member).elim

/-- No number is taken back to be given out once more. -/
theorem next_le_apply (operation : Operation) :
    observers.next ≤ (observers.apply operation).next := by
  cases operation with
  | register observer => exact Nat.le_succ _
  | unregister number => exact Nat.le_refl _
  | notify event => exact Nat.le_refl _

theorem Ordered.apply (ordered : observers.Ordered) (operation : Operation) :
    (observers.apply operation).Ordered := by
  cases operation with
  | register observer =>
      constructor
      · rw [numbers_register, List.pairwise_append]
        refine ⟨ordered.ascending, List.pairwise_singleton _ _, ?_⟩
        intro number member other last
        rw [List.mem_singleton.mp last]
        exact ordered.below number member
      · intro number member
        rw [numbers_register] at member
        rcases List.mem_append.mp member with known | last
        · exact Nat.lt_succ_of_lt (ordered.below number known)
        · rw [List.mem_singleton.mp last]
          exact Nat.lt_succ_self _
  | unregister removed =>
      constructor
      · rw [numbers_unregister]
        exact ordered.ascending.filter _
      · intro number member
        rw [numbers_unregister] at member
        exact ordered.below number (List.mem_filter.mp member).1
  | notify event =>
      constructor
      · rw [numbers_notify]
        exact ordered.ascending
      · intro number member
        rw [numbers_notify] at member
        exact ordered.below number member

theorem Ordered.after (ordered : observers.Ordered) (operations : List Operation) :
    (observers.after operations).Ordered := by
  induction operations generalizing observers with
  | nil => exact ordered
  | cons operation rest induction => exact induction (ordered.apply operation)

theorem next_le_after (observers : Observers) (operations : List Operation) :
    observers.next ≤ (observers.after operations).next := by
  induction operations generalizing observers with
  | nil => exact Nat.le_refl _
  | cons operation rest induction =>
      exact Nat.le_trans (next_le_apply operation) (induction (observers.apply operation))

theorem Ordered.nodup (ordered : observers.Ordered) : observers.numbers.Nodup :=
  ordered.ascending.imp fun below => Nat.ne_of_lt below

/-- Whether the observer of a number was registered by a run and not removed again. -/
def Registered (operations : List Operation) (number : Nat) : Prop :=
  ∃ before observer later, operations = before ++ .register observer :: later ∧
    number = ((after {} before).register observer).1 ∧ .unregister number ∉ later

/-- An observer that is not removed stays. -/
theorem mem_numbers_after (known : number ∈ observers.numbers)
    (kept : .unregister number ∉ operations) :
    number ∈ (observers.after operations).numbers := by
  induction operations generalizing observers with
  | nil => exact known
  | cons operation rest induction =>
      rw [List.mem_cons, not_or] at kept
      obtain ⟨keptFirst, keptRest⟩ := kept
      apply induction _ keptRest
      cases operation with
      | register observer =>
          rw [numbers_register]
          exact List.mem_append_left _ known
      | unregister other =>
          rw [numbers_unregister, List.mem_filter]
          refine ⟨known, bne_iff_ne.mpr ?_⟩
          rintro rfl
          exact keptFirst rfl
      | notify event =>
          rw [numbers_notify]
          exact known

/-- An observer stays registered until its number is removed. -/
theorem Registered.concat (registered : Registered operations number) {operation : Operation}
    (other : .unregister number ≠ operation) :
    Registered (operations ++ [operation]) number := by
  obtain ⟨before, observer, later, rfl, named, kept⟩ := registered
  refine ⟨before, observer, later ++ [operation], ?_, named, ?_⟩
  · rw [List.append_assoc, List.cons_append]
  · rw [List.mem_append, List.mem_singleton]
    exact not_or.mpr ⟨kept, other⟩

/-- The numbers there are belong to the observers that were registered and not removed. -/
theorem mem_numbers_iff :
    number ∈ (after {} operations).numbers ↔ Registered operations number := by
  constructor
  · intro member
    induction operations using List.reverseRecOn with
    | nil => cases member
    | append_singleton earlier operation induction =>
        rw [after_concat] at member
        cases operation with
        | register observer =>
            rw [numbers_register, List.mem_append, List.mem_singleton] at member
            rcases member with known | last
            · exact (induction known).concat Operation.noConfusion
            · exact ⟨earlier, observer, [], rfl, last, List.not_mem_nil⟩
        | unregister removed =>
            rw [numbers_unregister, List.mem_filter] at member
            obtain ⟨known, other⟩ := member
            refine (induction known).concat ?_
            rintro ⟨⟩
            exact bne_iff_ne.mp other rfl
        | notify event =>
            rw [numbers_notify] at member
            exact (induction member).concat Operation.noConfusion
  · rintro ⟨before, observer, later, rfl, rfl, kept⟩
    have last : ((after {} before).register observer).1 ∈
        ((after {} before).apply (.register observer)).numbers := by
      rw [numbers_register]
      exact List.mem_append_right _ List.mem_cons_self
    have still := mem_numbers_after last kept
    rw [after_append]
    exact still

/-- The observers there are stand in the order in which their numbers were given out. -/
theorem numbers_sublist_given (operations : List Operation) :
    (after {} operations).numbers.Sublist (given {} operations) := by
  induction operations using List.reverseRecOn with
  | nil => exact List.Sublist.refl _
  | append_singleton before operation induction =>
      rw [after_concat, given, along_append]
      cases operation with
      | register observer =>
          rw [numbers_register]
          exact induction.append (List.Sublist.refl _)
      | unregister number =>
          rw [numbers_unregister]
          exact (List.filter_sublist.trans induction).trans (List.sublist_append_left _ _)
      | notify event =>
          rw [numbers_notify]
          exact induction.trans (List.sublist_append_left _ _)

/-- Numbers are given out in ascending order, so none is given out twice. -/
theorem given_ascending (observers : Observers) (operations : List Operation) :
    (observers.given operations).Pairwise (· < ·) ∧
      ∀ number ∈ observers.given operations, observers.next ≤ number := by
  induction operations generalizing observers with
  | nil => exact ⟨List.Pairwise.nil, fun _ member => (List.not_mem_nil member).elim⟩
  | cons operation rest induction =>
      obtain ⟨ascending, above⟩ := induction (observers.apply operation)
      have aboveFirst : ∀ number ∈ (observers.apply operation).given rest,
          observers.next ≤ number :=
        fun number member => Nat.le_trans (next_le_apply operation) (above number member)
      cases operation with
      | register observer =>
          exact ⟨List.pairwise_cons.mpr ⟨above, ascending⟩,
            List.forall_mem_cons.mpr ⟨Nat.le_refl _, aboveFirst⟩⟩
      | unregister number => exact ⟨ascending, aboveFirst⟩
      | notify event => exact ⟨ascending, aboveFirst⟩

/-! ## The calls of one observer -/

/-- The calls that an observer receives among others. -/
def callsTo (number : Nat) (deliveries : List Delivery) : List Delivery :=
  deliveries.filter (·.observer == number)

theorem callsTo_calls_cons (observers : Observers) (operation : Operation)
    (rest : List Operation) :
    callsTo number (observers.calls (operation :: rest)) =
      callsTo number (observers.callsOf operation) ++
        callsTo number ((observers.apply operation).calls rest) :=
  List.filter_append _ _

@[simp]
theorem eventsUntil_unregister_self (rest : List Operation) :
    eventsUntil number (.unregister number :: rest) = [] := by
  simp [eventsUntil, Operation.removes]

theorem eventsUntil_unregister_of_ne {other : Nat} (different : other ≠ number)
    (rest : List Operation) :
    eventsUntil number (.unregister other :: rest) = eventsUntil number rest := by
  simp [eventsUntil, Operation.removes, Operation.event?, different]

@[simp]
theorem eventsUntil_notify (event : Event) (rest : List Operation) :
    eventsUntil number (.notify event :: rest) = event :: eventsUntil number rest :=
  rfl

/-- An announcement calls an observer that is there once. -/
theorem callsTo_notify {observer : Observer} (ordered : observers.Ordered)
    (known : (number, observer) ∈ observers.entries) (event : Event) :
    callsTo number (observers.notify event).1 =
      [{ observer := number, event, reaction := observer.react observer.told event }] := by
  obtain ⟨left, right, split⟩ := List.append_of_mem known
  have nodup := ordered.nodup
  rw [numbers, split, List.map_append, List.map_cons] at nodup
  have absent := (List.nodup_cons.mp (List.nodup_middle.mp nodup)).1
  rw [List.mem_append] at absent
  have others : ∀ entries : List (Nat × Observer), number ∉ entries.map Prod.fst →
      entries.filter (·.1 == number) = [] := by
    intro entries missing
    rw [List.filter_eq_nil_iff]
    intro entry member same
    exact missing (List.mem_map.mpr ⟨entry, member, eq_of_beq same⟩)
  have single : observers.entries.filter (·.1 == number) = [(number, observer)] := by
    have here : ((number, observer).1 == number) = true := beq_self_eq_true number
    rw [split, List.filter_append, List.filter_cons, if_pos here,
      others left fun inLeft => absent (Or.inl inLeft),
      others right fun inRight => absent (Or.inr inRight), List.nil_append]
  rw [callsTo, notify, List.filter_map]
  exact congrArg _ single

/-- An announcement does not call a number that is not there. -/
theorem callsTo_notify_of_absent (absent : number ∉ observers.numbers) (event : Event) :
    callsTo number (observers.notify event).1 = [] := by
  rw [callsTo, notify, List.filter_eq_nil_iff]
  intro delivery member same
  obtain ⟨entry, known, rfl⟩ := List.mem_map.mp member
  exact absent (List.mem_map.mpr ⟨entry, known, eq_of_beq same⟩)

/-- A number that is gone is never called again. -/
theorem callsTo_calls_of_absent (absent : number ∉ observers.numbers)
    (old : number < observers.next) (operations : List Operation) :
    callsTo number (observers.calls operations) = [] := by
  induction operations generalizing observers with
  | nil => rfl
  | cons operation rest induction =>
      have oldNext := Nat.lt_of_lt_of_le old (next_le_apply operation)
      rw [callsTo_calls_cons, List.append_eq_nil_iff]
      cases operation with
      | register observer =>
          refine ⟨rfl, induction ?_ oldNext⟩
          rw [numbers_register, List.mem_append, List.mem_singleton]
          rintro (known | rfl)
          · exact absent known
          · exact Nat.lt_irrefl _ old
      | unregister other =>
          refine ⟨rfl, induction ?_ oldNext⟩
          rw [numbers_unregister, List.mem_filter]
          exact fun known => absent known.1
      | notify event =>
          refine ⟨callsTo_notify_of_absent absent event, induction ?_ oldNext⟩
          rw [numbers_notify]
          exact absent

/-- An observer that is there hears the events until it is removed, each once and in order. -/
theorem callsTo_calls {observer : Observer} (ordered : observers.Ordered)
    (known : (number, observer) ∈ observers.entries) (operations : List Operation) :
    callsTo number (observers.calls operations) =
      observer.hear number (eventsUntil number operations) := by
  induction operations generalizing observers observer with
  | nil => rfl
  | cons operation rest induction =>
      have orderedNext := ordered.apply operation
      rw [callsTo_calls_cons]
      cases operation with
      | register other => exact induction orderedNext (List.mem_append_left _ known)
      | unregister removed =>
          by_cases same : removed = number
          · subst same
            have gone : removed ∉ (observers.apply (.unregister removed)).numbers := by
              rw [numbers_unregister, List.mem_filter]
              exact fun there => bne_iff_ne.mp there.2 rfl
            have old : removed < observers.next :=
              ordered.below removed (List.mem_map.mpr ⟨_, known, rfl⟩)
            rw [eventsUntil_unregister_self]
            exact callsTo_calls_of_absent gone old rest
          · have there : (number, observer) ∈
                (observers.apply (.unregister removed)).entries :=
              List.mem_filter.mpr ⟨known, bne_iff_ne.mpr (Ne.symm same)⟩
            rw [eventsUntil_unregister_of_ne same]
            exact induction orderedNext there
      | notify event =>
          have there : (number, observer.tell event) ∈
              (observers.apply (.notify event)).entries :=
            List.mem_map.mpr ⟨_, known, rfl⟩
          rw [callsOf, callsTo_notify ordered known, induction orderedNext there]
          rfl

/-- Only numbers that were given out are called. -/
theorem Ordered.lt_next_of_mem_calls (ordered : observers.Ordered) {delivery : Delivery}
    (called : delivery ∈ observers.calls operations) :
    delivery.observer < (observers.after operations).next := by
  induction operations generalizing observers with
  | nil => cases called
  | cons operation rest induction =>
      rcases List.mem_append.mp called with now | later
      · have before : delivery.observer < observers.next := by
          cases operation with
          | register observer => cases now
          | unregister number => cases now
          | notify event =>
              obtain ⟨entry, known, rfl⟩ := List.mem_map.mp now
              exact ordered.below _ (List.mem_map.mpr ⟨entry, known, rfl⟩)
        exact Nat.lt_of_lt_of_le before (observers.next_le_after (operation :: rest))
      · exact induction (ordered.apply operation) later

/-- A new observer is called with the events from its registration to its removal. -/
theorem callsTo_of_registered (before : List Operation) (observer : Observer)
    (later : List Operation) :
    let number := ((after {} before).register observer).1
    callsTo number (calls {} (before ++ .register observer :: later)) =
      observer.hear number (eventsUntil number later) := by
  intro number
  have silent : callsTo number (calls {} before) = [] := by
    rw [callsTo, List.filter_eq_nil_iff]
    intro delivery called same
    have below := ordered_empty.lt_next_of_mem_calls called
    rw [eq_of_beq same] at below
    exact Nat.lt_irrefl _ below
  have ordered : ((after {} before).apply (.register observer)).Ordered :=
    (ordered_empty.after before).apply _
  have known : (number, observer) ∈ ((after {} before).apply (.register observer)).entries :=
    List.mem_append_right _ List.mem_cons_self
  rw [calls, along_append, callsTo, List.filter_append]
  exact (congrArg (· ++ _) silent).trans (callsTo_calls ordered known later)

section Isolation

variable {before other later further : List Operation}

/-- How observers react has no part in the numbers that are given out. -/
theorem next_after_of_alike (alike : List.Forall₂ Operation.Alike before other)
    {left right : Observers} (same : left.next = right.next) :
    (left.after before).next = (right.after other).next := by
  induction alike generalizing left right with
  | nil => exact same
  | cons first _ induction =>
      apply induction
      cases first with
      | register _ _ => exact congrArg (· + 1) same
      | unregister _ => exact same
      | notify _ => exact same

/-- How observers react has no part in the events that are announced. -/
theorem eventsUntil_of_alike (alike : List.Forall₂ Operation.Alike later further) :
    eventsUntil number later = eventsUntil number further := by
  induction alike with
  | nil => rfl
  | cons first _ induction =>
      cases first with
      | register _ _ => exact induction
      | unregister removed =>
          by_cases same : removed = number
          · subst same
            rw [eventsUntil_unregister_self, eventsUntil_unregister_self]
          · rw [eventsUntil_unregister_of_ne same, eventsUntil_unregister_of_ne same, induction]
      | notify event => rw [eventsUntil_notify, eventsUntil_notify, induction]

/-- Whatever the other observers do with their events, an observer receives the same calls. -/
theorem callsTo_of_alike (alikeBefore : List.Forall₂ Operation.Alike before other)
    (alikeLater : List.Forall₂ Operation.Alike later further) (observer : Observer) :
    let number := ((after {} before).register observer).1
    callsTo number (calls {} (other ++ .register observer :: further)) =
      callsTo number (calls {} (before ++ .register observer :: later)) := by
  intro number
  have same : number = ((after {} other).register observer).1 :=
    next_after_of_alike alikeBefore rfl
  calc
    callsTo number (calls {} (other ++ .register observer :: further)) =
        observer.hear number (eventsUntil number further) := by
      rw [same]
      exact callsTo_of_registered other observer further
    _ = observer.hear number (eventsUntil number later) := by
      rw [eventsUntil_of_alike alikeLater]
    _ = callsTo number (calls {} (before ++ .register observer :: later)) :=
      (callsTo_of_registered before observer later).symm

end Isolation

theorem unregister_found_iff :
    (observers.unregister number).1 = true ↔ number ∈ observers.numbers := by
  rw [unregister, List.any_eq_true, numbers, List.mem_map]
  exact exists_congr fun entry => and_congr_right fun _ => beq_iff_eq

/-- A removal takes one number out and leaves the others in their order. -/
theorem Ordered.numbers_erase (ordered : observers.Ordered) (number : Nat) :
    (observers.unregister number).2.numbers = observers.numbers.erase number :=
  (numbers_unregister number).trans (ordered.nodup.erase_eq_filter number).symm

theorem map_observer_notify (event : Event) :
    (observers.notify event).1.map (·.observer) = observers.numbers := by
  rw [notify, numbers, List.map_map]
  rfl

/-- What holds of everything that is done with observers, beginning with none. -/
structure Delivers (operations : List Operation) : Prop where
  /-- No number is given out twice. -/
  distinct : (given {} operations).Nodup
  /-- A new observer receives the events until its removal, each once and in order. -/
  heard : ∀ before observer later, operations = before ++ .register observer :: later →
    let number := ((after {} before).register observer).1
    callsTo number (calls {} operations) = observer.hear number (eventsUntil number later)
  /-- It receives the same calls, whichever other observers take their places. -/
  isolated : ∀ before observer later, operations = before ++ .register observer :: later →
    ∀ other further, List.Forall₂ Operation.Alike before other →
      List.Forall₂ Operation.Alike later further →
      let number := ((after {} before).register observer).1
      callsTo number (calls {} (other ++ .register observer :: further)) =
        callsTo number (calls {} operations)
  /-- An event is told to all that are registered and no others, in order of registration. -/
  told : ∀ event,
    let deliveries := ((after {} operations).notify event).1
    (∀ delivery ∈ deliveries, delivery.event = event) ∧
      (deliveries.map (·.observer)).Sublist (given {} operations) ∧
      ∀ number, number ∈ deliveries.map (·.observer) ↔ Registered operations number
  /-- A removal finds what is registered, and the others keep their order. -/
  removed : ∀ number,
    let removal := (after {} operations).unregister number
    (removal.1 = true ↔ Registered operations number) ∧
      removal.2.numbers = (after {} operations).numbers.erase number

theorem delivers (operations : List Operation) : Delivers operations where
  distinct := (given_ascending {} operations).1.imp fun below => Nat.ne_of_lt below
  heard := by
    rintro before observer later rfl
    exact callsTo_of_registered before observer later
  isolated := by
    rintro before observer later rfl other further alikeBefore alikeLater
    exact callsTo_of_alike alikeBefore alikeLater observer
  told := by
    intro event deliveries
    have called : deliveries.map (·.observer) = (after {} operations).numbers :=
      map_observer_notify event
    refine ⟨?_, ?_, ?_⟩
    · intro delivery member
      obtain ⟨entry, _, rfl⟩ := List.mem_map.mp member
      rfl
    · rw [called]
      exact numbers_sublist_given operations
    · intro number
      rw [called]
      exact mem_numbers_iff
  removed := by
    intro number removal
    exact ⟨unregister_found_iff.trans mem_numbers_iff,
      (ordered_empty.after operations).numbers_erase number⟩

end Observers

end Playback
