import Onboarding.Device
import Onboarding.Peers.Host
import Onboarding.Radio.Host

/-!
# Booting a device on a host

From settings and a store file to a device that is ready for its first step.
-/

namespace Onboarding

namespace Boot

/-- The strength of the network at a position of the list: each is a little weaker than the one
before, down to a floor. -/
def strength (position : Nat) : Int :=
  max (-45 - 7 * (position : Int)) (-95)

/-- The networks that a host's radio lists. -/
def networks (names : List String) : List Network :=
  names.zipIdx.map fun (ssid, i) => { ssid, rssi := strength i, channel := 6, secure := true }

/-- The directory of certificates, unless another is set. -/
def certificateDirectory : String := "certs"

/-- The store as a device finds it, emptied if the settings say so. -/
def openStore (s : Settings) (place : Place) : Except StoreError Store := do
  let store := Store.file (← FileStore.openAt place)
  return if s.eraseOnBoot then store.eraseAll.1 else store

/-- A supervisor for a store and a radio. -/
def supervisor {ρ : Type} (s : Settings) (radio : ρ) (store : Store) : Supervisor ρ :=
  { hub := { radio, store }, accessPoint := s.accessPoint }

/-- A device on a host, before its first step. -/
def device (s : Settings) (place : Place) (surroundings : Surroundings)
    (directory : CertificateDirectory) : Except StoreError (Device HostRadio HostPeers) := do
  let store ← openStore s place
  let radio : HostRadio := { networks := networks s.hostNetworks }
  return {
    supervisor := supervisor s radio store
    peers := {
      surroundings
      probeTarget := s.probeTarget
      directory
      session := { broker := s.brokerUri } }
    patience := s.timings.messagingPolls }

/-- Steps until the portal accepts requests, at most as many as given. -/
def untilListening (d : Device HostRadio HostPeers) : Nat → Device HostRadio HostPeers
  | 0 => d
  | steps + 1 => if d.supervisor.isListening then d else untilListening d.step steps

end Boot

end Onboarding
