import Playback.Session.Event

/-!
# Observers

Observers are told every event, in the order in which they were registered.  Each of them may
handle an event, fail on it or break down on it; that is its own affair and reaches neither
the other observers nor the session.  What an observer does next may depend on all it has
been told before, so it keeps those events.
-/

namespace Playback

/-- How an observer took an event. -/
inductive Reaction
  | handled
  | failed
  | panicked
  deriving DecidableEq, Repr

/-- A listener to the events of a session. -/
structure Observer where
  /-- How it takes an event, given those told before, latest first. -/
  react : (told : List Event) → (event : Event) → Reaction
  /-- The events told so far, latest first. -/
  told : List Event := []

def Observer.tell (observer : Observer) (event : Event) : Observer :=
  { observer with told := event :: observer.told }

/-- An event as one observer received it. -/
structure Delivery where
  observer : Nat
  event : Event
  reaction : Reaction
  deriving DecidableEq, Repr

/-- The observers of a session, each under its number, in order of registration. -/
structure Observers where
  next : Nat := 0
  entries : List (Nat × Observer) := []

namespace Observers

def size (observers : Observers) : Nat :=
  observers.entries.length

/-- Adds an observer after all others and gives it a number that no other ever had. -/
def register (observers : Observers) (observer : Observer) : Nat × Observers :=
  (observers.next,
    { next := observers.next + 1
      entries := observers.entries ++ [(observers.next, observer)] })

/-- Removes the observer with a number and tells whether there was one. -/
def unregister (observers : Observers) (number : Nat) : Bool × Observers :=
  (observers.entries.any (·.1 == number),
    { observers with entries := observers.entries.filter (·.1 != number) })

def notify (observers : Observers) (event : Event) : List Delivery × Observers :=
  (observers.entries.map fun (number, observer) =>
      { observer := number, event, reaction := observer.react observer.told event },
    { observers with
      entries := observers.entries.map fun (number, observer) => (number, observer.tell event) })

end Observers

end Playback
