import Onboarding.Lifecycle
import Onboarding.Peers.Basic
import Onboarding.Supervisor

/-!
# The life of a device

`Device.step` does what the present stage of a device asks for and goes on to the next one. Queued
events are handled at the start of every step and in every wait. A record that was cleared in the
meantime sends the device back to access point mode from wherever it is.

## Main statements

* `stage_step`: a step ends in the stage that its action chose.
-/

namespace Onboarding

/-- A device with the radio and the peers that it has. -/
structure Device (ρ κ : Type) where
  supervisor : Supervisor ρ
  peers : κ
  lifecycle : Lifecycle := {}
  /-- The certificates of the next session. -/
  certificates : Option Certificates := none
  /-- How often a connecting session is looked at again before it is given up. -/
  patience : Nat := 0

namespace Device

variable {ρ κ : Type}

/-- The store. -/
def store (d : Device ρ κ) : Store :=
  d.supervisor.hub.store

/-- Whether the store holds a record; a flag that cannot be read counts as unset. -/
def isProvisioned (d : Device ρ κ) : Bool :=
  match d.store.isProvisioned with
  | .ok b => b
  | .error _ => false

def withCounters (d : Device ρ κ) (f : Counters → Counters) : Device ρ κ :=
  { d with lifecycle := { d.lifecycle with counters := f d.lifecycle.counters } }

/-- Takes in a peer's answer: the peers and their events. -/
def answered {α : Type} (d : Device ρ κ) (a : PeerAnswer κ α) : Device ρ κ × α :=
  ({ d with peers := a.peers, supervisor := d.supervisor.push a.events }, a.result)

variable [Radio ρ]

/-- Handles all queued events. -/
def drain (d : Device ρ κ) : Device ρ κ :=
  { d with supervisor := d.supervisor.drain }

/-- Clears the record and opens the access point again. -/
def clearAndRestart (d : Device ρ κ) : Device ρ κ :=
  { d with supervisor := d.supervisor.clearAndRestart }

/-- Keeps the portal open until there is a record. -/
def apMode (d : Device ρ κ) : Device ρ κ × Stage :=
  if d.isProvisioned then (d, .connectingWifi)
  else
    let supervisor := d.supervisor.startProvisioning.1
    (drain { d with supervisor }, .apMode)

/-- Asks for a station connection with the stored credentials. Credentials that the radio cannot
use, and a record that is not whole, are cleared. -/
def requestStation (d : Device ρ κ) : Device ρ κ × Stage :=
  match d.store.loadRecord with
  | .ok (some r) =>
    match d.supervisor.ensureStation r.credentials with
    | (supervisor, .ok ()) =>
      let d := { d with supervisor }.withCounters fun c => { c with stationRequested := true }
      (d.drain, .connectingWifi)
    | (supervisor, .error (.radio (.invalidConfig _))) =>
      ({ d with supervisor }.clearAndRestart, .apMode)
    | (supervisor, .error _) => (drain { d with supervisor }, .connectingWifi)
  | .ok none => (d, .apMode)
  | .error (.incomplete _) => (d.clearAndRestart, .apMode)
  | .error _ => (d.drain, .connectingWifi)

/-- Waits for the connection, which is asked for once. -/
def connectingWifi (d : Device ρ κ) : Device ρ κ × Stage :=
  if !d.isProvisioned then (d, .apMode)
  else if d.supervisor.hub.connectivity.isConnected then (d, .wifiConnected)
  else if d.lifecycle.counters.stationRequested then (d.drain, .connectingWifi)
  else d.requestStation

variable [Peers κ]

/-- Probes the connection; after too many failures its credentials are cleared. -/
def wifiConnected (d : Device ρ κ) : Device ρ κ × Stage :=
  if !d.isProvisioned then (d, .apMode)
  else
    let d := d.drain
    match d.answered (Peers.probe d.peers) with
    | (d, true) => (d, .checkCertificates)
    | (d, false) =>
      let d := d.withCounters fun c => { c with probeAttempts := c.probeAttempts + 1 }
      if maxProbeAttempts ≤ d.lifecycle.counters.probeAttempts then (d.clearAndRestart, .apMode)
      else (d.drain, .wifiConnected)

omit [Radio ρ] [Peers κ] in
/-- Takes the stored certificates, or goes on to ask for new ones. -/
def checkCertificates (d : Device ρ κ) : Device ρ κ × Stage :=
  if !d.isProvisioned then (d, .apMode)
  else
    match d.store.loadCertificates with
    | .ok (some c) => ({ d with certificates := some c }, .connectingMessaging)
    | _ => (d, .submittingCsr)

/-- Stores certificates as far as the store takes them. -/
def keepCertificates (d : Device ρ κ) (c : Certificates) : Device ρ κ :=
  let hub := (d.supervisor.hub.withStore (Store.saveCertificates c)).1
  { d with supervisor := { d.supervisor with hub }, certificates := some c }

/-- Asks the issuer for certificates. -/
def submittingCsr (d : Device ρ κ) : Device ρ κ × Stage :=
  if !d.isProvisioned then (d, .apMode)
  else
    match d.store.loadRecord with
    | .ok (some r) =>
      match d.answered (Peers.issue r.deviceId r.provisioningToken d.peers) with
      | (d, .ok c) => (d.keepCertificates c, .connectingMessaging)
      | (d, .error _) => (d.drain, .submittingCsr)
    | .ok none => (d, .apMode)
    | .error (.incomplete _) => (d.clearAndRestart, .apMode)
    | .error _ => (d.drain, .submittingCsr)

/-- Looks at a connecting session until it is established, given up, or the record is gone. The
number is that of the looks left after this one. -/
def awaitMessaging : Nat → Device ρ κ → Device ρ κ × Bool
  | looks, d =>
    match d.answered (Peers.poll d.peers) with
    | (d, true) => (d, true)
    | (d, false) =>
      match looks with
      | 0 => (d, false)
      | looks + 1 => if d.isProvisioned then awaitMessaging looks d.drain else (d, false)

/-- Begins a session and waits for it. -/
def openSession (d : Device ρ κ) (c : Certificates) : Device ρ κ × Bool :=
  match d.answered (Peers.start c d.peers) with
  | (d, .ok ()) => awaitMessaging d.patience d
  | (d, .error _) => (d, false)

/-- Ends the session. -/
def stopMessaging (d : Device ρ κ) : Device ρ κ :=
  { d with peers := Peers.stop d.peers }

/-- A session failed: it is ended and counted, and after too many the device gives up. -/
def messagingFailed (d : Device ρ κ) : Device ρ κ × Stage :=
  let d := d.stopMessaging
  if !d.isProvisioned then (d, .apMode)
  else
    let d := d.withCounters fun c => { c with messagingAttempts := c.messagingAttempts + 1 }
    if maxMessagingAttempts ≤ d.lifecycle.counters.messagingAttempts then (d, .error)
    else (d.drain, .connectingMessaging)

/-- The certificates of the next session: those at hand, else the stored ones. -/
def sessionCertificates (d : Device ρ κ) : Option Certificates :=
  match d.certificates with
  | some c => some c
  | none =>
    match d.store.loadCertificates with
    | .ok c => c
    | .error _ => none

/-- Opens a session. -/
def connectingMessaging (d : Device ρ κ) : Device ρ κ × Stage :=
  if !d.isProvisioned then (d, .apMode)
  else
    match d.sessionCertificates with
    | none => (d, .checkCertificates)
    | some c =>
      match d.openSession c with
      | (d, true) => (d, .operational)
      | (d, false) => d.messagingFailed

/-- Counts a look at the open session, from the last sign of life on. -/
def countCheck (c : Counters) : Counters :=
  let n := c.operationalChecks + 1
  { c with operationalChecks := if heartbeatInterval ≤ n then 0 else n }

/-- Looks at the open session. -/
def operational (d : Device ρ κ) : Device ρ κ × Stage :=
  if !d.isProvisioned then (d.stopMessaging, .apMode)
  else
    match d.answered (Peers.poll d.peers) with
    | (d, false) => (d.stopMessaging, .connectingMessaging)
    | (d, true) => ((d.withCounters countCheck).drain, .operational)

/-- What the present stage asks for, and the stage after it. -/
def act (d : Device ρ κ) : Device ρ κ × Stage :=
  match d.lifecycle.stage with
  | .init => (d, .checkProvisioned)
  | .checkProvisioned => (d, if d.isProvisioned then .connectingWifi else .apMode)
  | .apMode => d.apMode
  | .connectingWifi => d.connectingWifi
  | .wifiConnected => d.wifiConnected
  | .checkCertificates => d.checkCertificates
  | .submittingCsr => d.submittingCsr
  | .connectingMessaging => d.connectingMessaging
  | .operational => d.operational
  | .error => (d.drain, .error)

/-- One step: queued events, the action of the stage, the next stage. -/
def step (d : Device ρ κ) : Device ρ κ :=
  let (d, next) := d.drain.act
  { d with lifecycle := d.lifecycle.enter next }

/-- One round of the loop that a device runs for ever: a step and the wait after it. -/
def round (d : Device ρ κ) : Device ρ κ :=
  d.step.drain

theorem stage_step (d : Device ρ κ) : d.step.lifecycle.stage = d.drain.act.2 := by
  simp [step, Lifecycle.stage_enter]

end Device

end Onboarding
