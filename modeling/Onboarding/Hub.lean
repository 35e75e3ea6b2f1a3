import Onboarding.Connectivity
import Onboarding.ScanCache
import Onboarding.Store.Records

/-!
# What portal and supervisor share

The radio, the store, the scan cache, the connectivity and the queue of events of one device.

## Main statements

* `Inbox.weights_push_le`: what a queue gains when events are put into it.
-/

namespace Onboarding

/-- The queue of events, oldest first. A queue that nobody reads any more takes nothing in. -/
structure Inbox where
  events : List Event := []
  closed : Bool := false
  deriving Repr, DecidableEq

namespace Inbox

/-- Puts events at the end. -/
def push (i : Inbox) (es : List Event) : Inbox :=
  if i.closed then i else { i with events := i.events ++ es }

theorem weights_push_le (i : Inbox) (es : List Event) :
    Event.weights (i.push es).events ≤ Event.weights i.events + Event.weights es := by
  unfold push
  split
  · omega
  · simp [Event.weights_append]

end Inbox

/-- The shared parts of a device. -/
structure Hub (ρ : Type) where
  radio : ρ
  store : Store
  cache : ScanCache := {}
  connectivity : Connectivity := .disconnected
  inbox : Inbox := {}

namespace Hub

variable {ρ : Type}

/-- Queues events. -/
def push (h : Hub ρ) (es : List Event) : Hub ρ :=
  { h with inbox := h.inbox.push es }

/-- Takes in a radio's answer: the radio and its events. -/
def answered (h : Hub ρ) (a : RadioAnswer ρ) : Hub ρ × Except RadioError Unit :=
  ({ h with radio := a.radio, inbox := h.inbox.push (a.events.map .link) }, a.result)

/-- Scans and takes in the result. -/
def refreshCache [Radio ρ] (h : Hub ρ) : Hub ρ × Except CacheError Nat :=
  let (radio, cache, result) := h.cache.refresh h.radio
  ({ h with radio, cache }, result)

/-- Forgets the scanned networks. -/
def invalidateCache (h : Hub ρ) : Hub ρ :=
  { h with cache := h.cache.invalidate }

/-- Makes changes to the store. -/
def withStore {ε : Type} (h : Hub ρ) (f : Store → Store × Except ε Unit) :
    Hub ρ × Except ε Unit :=
  let (store, result) := f h.store
  ({ h with store }, result)

end Hub

end Onboarding
