import Playback.Session.Basic
import Playback.Session.Observers

/-!
# Sessions with observers

A session and those who listen to it.  Every turn of the session is told to the
observers after it has been taken, so nothing they do changes its answer.  Starting afresh keeps
the observers.
-/

namespace Playback

/-- A session and its observers. -/
structure WatchedSession where
  session : Session
  observers : Observers := {}

namespace WatchedSession

/-- The watched session after a turn of its session, with what was delivered. -/
def settle {α : Type} (watched : WatchedSession) (turn : Turn α) :
    List Delivery × WatchedSession :=
  match turn.event with
  | none => ([], { watched with session := turn.session })
  | some event =>
    let (deliveries, observers) := watched.observers.notify event
    (deliveries, { session := turn.session, observers })

def register (watched : WatchedSession) (observer : Observer) : Nat × WatchedSession :=
  let (number, observers) := watched.observers.register observer
  (number, { watched with observers })

/-- Removes the observer with a number and tells whether there was one. -/
def unregister (watched : WatchedSession) (number : Nat) : Bool × WatchedSession :=
  let (found, observers) := watched.observers.unregister number
  (found, { watched with observers })

end WatchedSession

end Playback
