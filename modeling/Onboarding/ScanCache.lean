import Onboarding.Radio.Basic

/-!
# The scan cache

Scans are slow, so clients are served a snapshot of the last one, cut at `capacity` networks. The
snapshot is under a lock that gives up after a while: as long as somebody else holds it, nothing is
read or stored.

## Main statements

* `snapshot_store_found`: what a successful scan leaves.
-/

namespace Onboarding

/-- Why the cache has no answer. -/
inductive CacheError where
  | busy
  | scanFailed
  deriving Repr, DecidableEq

/-- The text of a cache error. -/
def CacheError.message : CacheError → String
  | busy => "scan cache busy"
  | scanFailed => "network scan failed"

/-- The networks of the last scan; none until there was one. -/
structure Snapshot where
  networks : List Network := []
  populated : Bool := false
  deriving Repr, DecidableEq

/-- The snapshot and whether its lock is held. -/
structure ScanCache where
  snapshot : Snapshot := {}
  held : Bool := false
  deriving Repr, DecidableEq

namespace ScanCache

/-- The greatest number of networks kept. -/
def capacity : Nat := 20

/-- Takes in the end of a scan; gives the number of networks kept. -/
def store (c : ScanCache) : ScanReply → ScanCache × Except CacheError Nat
  | .found networks =>
    if c.held then (c, .error .busy)
    else
      let kept := networks.take capacity
      ({ c with snapshot := ⟨kept, true⟩ }, .ok kept.length)
  | .failed _ | .pending => (c, .error .scanFailed)

/-- Scans and takes in the result. -/
def refresh {ρ : Type} [Radio ρ] (r : ρ) (c : ScanCache) :
    ρ × ScanCache × Except CacheError Nat :=
  let (r, reply) := Radio.scan r
  (r, c.store reply)

/-- The snapshot. -/
def read (c : ScanCache) : Except CacheError Snapshot :=
  if c.held then .error .busy else .ok c.snapshot

/-- Forgets the snapshot. -/
def invalidate (c : ScanCache) : ScanCache :=
  { c with snapshot := {} }

theorem snapshot_store_found (c : ScanCache) (h : c.held = false) (networks : List Network) :
    (c.store (.found networks)).1.snapshot = ⟨networks.take capacity, true⟩ := by
  simp [store, h]

end ScanCache

end Onboarding
