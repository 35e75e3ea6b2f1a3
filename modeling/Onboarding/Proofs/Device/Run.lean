import Onboarding.Boot
import Onboarding.Proofs.Device.Moves
import Onboarding.Proofs.Supervisor.Requests

/-!
# Runs of a device

A device runs by steps and the waits between them, and in the gaps links change, clients make
requests one at a time, and scans come to their end. A run is any finite sequence of these, in any
order.

## Main results

* `Device.run_induct`: what every happening preserves holds after a run.
-/

namespace Onboarding

/-- What can happen to a device. -/
inductive Happening where
  /-- The device makes a step. -/
  | step
  /-- The device waits, which handles the queued events. -/
  | wait
  /-- The radio reports something about its links. -/
  | link (event : LinkEvent)
  /-- A client makes a request. -/
  | request (request : Request)
  /-- A scan that nobody waits for any more comes to its end. -/
  | scanned (reply : ScanReply)

/-- Peers whose calls bring link events at most, so that submissions come between steps only. -/
class Peers.BringLinks (κ : Type) [Peers κ] : Prop where
  probe : ∀ p : κ, (Peers.probe p).events.filterMap Event.credentials? = []
  issue : ∀ (deviceId token : String) (p : κ),
    (Peers.issue deviceId token p).events.filterMap Event.credentials? = []
  start : ∀ (c : Certificates) (p : κ),
    (Peers.start c p).events.filterMap Event.credentials? = []
  poll : ∀ p : κ, (Peers.poll p).events.filterMap Event.credentials? = []

/-- The peers of a host bring no events at all. -/
instance : Peers.BringLinks HostPeers where
  probe _ := rfl
  issue _ _ _ := rfl
  start _ _ := rfl
  poll _ := rfl

namespace Device

variable {ρ κ : Type}

/-- A device before its first step. The schedule `port` says when the portal's port can be had. -/
def booted (settings : Settings) (radio : ρ) (port : Faults) (store : Store) (peers : κ) :
    Device ρ κ where
  supervisor := { Boot.supervisor settings radio store with port }
  peers
  patience := settings.timings.messagingPolls

/-- A host boots such a device. -/
theorem boot_eq_booted (settings : Settings) (place : Place) (surroundings : Surroundings)
    (directory : CertificateDirectory) :
    Boot.device settings place surroundings directory =
      (Boot.openStore settings place).map fun store =>
        booted settings { networks := Boot.networks settings.hostNetworks } .never store
          { surroundings
            probeTarget := settings.probeTarget
            directory
            session := { broker := settings.brokerUri } } := by
  rw [Boot.device]
  cases Boot.openStore settings place <;> rfl

variable [Radio ρ]

/-- Passes a request to the portal. -/
def request (d : Device ρ κ) (r : Request) : Device ρ κ × Option Response :=
  ({ d with supervisor := (d.supervisor.handle r).1 }, (d.supervisor.handle r).2)

variable [Peers κ]

/-- The device after something happened to it. -/
def undergo (d : Device ρ κ) : Happening → Device ρ κ
  | .step => d.step
  | .wait => d.drain
  | .link e => { d with supervisor := d.supervisor.push [.link e] }
  | .request r => (d.request r).1
  | .scanned reply => { d with supervisor := d.supervisor.finishScan reply }

/-- The device after a run. -/
def run (d : Device ρ κ) (happenings : List Happening) : Device ρ κ :=
  happenings.foldl undergo d

/-- **Induction along a run**: what every happening preserves holds after a run. -/
theorem run_induct {P : Device ρ κ → Prop}
    (hstep : ∀ (d : Device ρ κ) (h : Happening), P d → P (d.undergo h))
    {d : Device ρ κ} (hd : P d) (happenings : List Happening) : P (d.run happenings) := by
  induction happenings generalizing d with
  | nil => exact hd
  | cons h rest ih => exact ih (hstep d h hd)

end Device

end Onboarding
