import Onboarding.Radio.Basic

/-!
# The simulated radio of a host

The host's own network is always there, so joining a network that the radio lists succeeds at once
with the host's address; joining any other fails as if the network were out of range.
-/

namespace Onboarding

/-- What a host radio is doing. -/
inductive RadioMode where
  | off
  | accessPoint
  | station
  deriving Repr, DecidableEq

/-- The displayed name of a mode. -/
def RadioMode.name : RadioMode → String
  | off => "Off"
  | accessPoint => "AccessPoint"
  | station => "Station"

/-- A simulated radio with the networks that it lists. -/
structure HostRadio where
  networks : List Network
  /-- The host's address. -/
  address : Ipv4 := .loopback
  mode : RadioMode := .off

namespace HostRadio

/-- The reason given for a network that is not listed. -/
def noNetworkFound : UInt16 := 201

/-- The networks, unless the radio is off. -/
def scan (r : HostRadio) : HostRadio × ScanReply :=
  (r, if r.mode = .off then .failed .notStarted else .found r.networks)

/-- Whether a network is listed. -/
def lists (r : HostRadio) (ssid : String) : Bool :=
  r.networks.any (·.ssid == ssid)

/-- The events of joining a listed network. -/
def joined (r : HostRadio) : List LinkEvent :=
  [.stationConnected, .gotIp r.address]

/-- Joins a network, if any network accepts the credentials. -/
def join (c : Credentials) (r : HostRadio) : RadioAnswer HostRadio :=
  if c.isValid then
    { radio := { r with mode := .station }
      result := .ok ()
      events := .stationStarted ::
        if r.lists c.ssid then r.joined else [.stationDisconnected noNetworkFound] }
  else { radio := r, result := .error .stationCredentials }

/-- Reports a fresh link in station mode. -/
def rejoin (r : HostRadio) : RadioAnswer HostRadio :=
  if r.mode = .station then { radio := r, result := .ok (), events := r.joined }
  else { radio := r, result := .error .notStarted }

instance : Radio HostRadio where
  scan := scan
  startAccessPoint _ r := { radio := { r with mode := .accessPoint }, result := .ok () }
  join := join
  rejoin := rejoin
  stop r := { radio := { r with mode := .off }, result := .ok () }
  startAccessPoint_events _ _ := rfl
  stop_events _ := rfl
  join_weights c r := by
    unfold join
    split
    · split <;> simp [LinkEvent.weights, LinkEvent.weight, joined]
    · simp [LinkEvent.weights]
  rejoin_weights r := by
    unfold rejoin
    split <;> simp [LinkEvent.weights, LinkEvent.weight, joined]

end HostRadio

end Onboarding
