import Onboarding.Net.Address
import Onboarding.Settings

/-!
# Radios

A radio scans for networks, opens an access point, joins a network, joins it again, and is switched
off. Calls that change its mode may be followed by link events, which the radio hands over with its
answer. `Radio` is the class of all radios; its laws bound the events, so that handling events
always comes to an end: every event has a weight, and a call brings less weight than the event that
it is made for.

## Main statements

* `classify_eq_rejected_iff`: the reasons that blame the credentials.
* `Event.weights_append`: queues weigh what their parts weigh.
-/

namespace Onboarding

/-- A network that a scan found. -/
structure Network where
  ssid : String
  rssi : Int
  channel : UInt8
  secure : Bool
  deriving Repr, DecidableEq

/-- The hardware address of a client. -/
abbrev Mac := List UInt8

/-- Two hexadecimal digits of each byte, with colons between them. -/
def Mac.text (m : Mac) : List Char :=
  let digit (n : Nat) : Char := Nat.digitChar (n % 16)
  Address.joined ':' (m.map fun b => [digit (b.toNat / 16), digit b.toNat])

/-- What a radio reports about its links. -/
inductive LinkEvent where
  | stationStarted
  | stationConnected
  | stationDisconnected (reason : UInt16)
  | gotIp (ip : Ipv4)
  | clientJoined (mac : Mac)
  | clientLeft (mac : Mac)
  | clientGotIp (ip : Ipv4)
  deriving Repr, DecidableEq

/-- What waits for the supervisor. -/
inductive Event where
  | link (event : LinkEvent)
  /-- Credentials that a client handed over. -/
  | submitted (credentials : Credentials)
  deriving Repr, DecidableEq

/-- What a lost link means. -/
inductive Disconnect where
  /-- The network refuses the credentials. -/
  | credentialRejected
  /-- The link may come back. -/
  | transient
  deriving Repr, DecidableEq

/-- The meaning of the reason of a lost link: a handshake that timed out, and the driver's reasons
from 201 to 209, blame the credentials. -/
def Disconnect.classify (reason : UInt16) : Disconnect :=
  if reason = 15 ∨ 201 ≤ reason ∧ reason ≤ 209 then credentialRejected else transient

theorem Disconnect.classify_eq_rejected_iff (reason : UInt16) :
    classify reason = credentialRejected ↔ reason = 15 ∨ 201 ≤ reason ∧ reason ≤ 209 := by
  unfold classify
  split <;> simp_all

/-- Why a radio refuses a call. -/
inductive RadioError where
  | invalidConfig (what : String)
  /-- The radio is in no mode for the call. -/
  | notStarted
  deriving Repr, DecidableEq

/-- The text of a radio error. -/
def RadioError.message : RadioError → String
  | invalidConfig what => "invalid radio configuration: " ++ what
  | notStarted => "radio not started"

/-- The refusal of credentials that no network accepts. -/
def RadioError.stationCredentials : RadioError :=
  invalidConfig "station credentials"

/-- The end of a scan. -/
inductive ScanReply where
  | found (networks : List Network)
  | failed (error : RadioError)
  /-- The scan takes longer than anyone waits for it. -/
  | pending
  deriving Repr, DecidableEq

/-- How much handling an event may bring, itself included: a lost link may be joined again, and
credentials may be tried. -/
def LinkEvent.weight : LinkEvent → Nat
  | stationDisconnected _ => 3
  | _ => 1

/-- The weight of an event of either kind. -/
def Event.weight : Event → Nat
  | link e => e.weight
  | submitted _ => 5

/-- The weight of events together. -/
def LinkEvent.weights : List LinkEvent → Nat
  | [] => 0
  | e :: es => e.weight + weights es

/-- The weight of a queue. -/
def Event.weights : List Event → Nat
  | [] => 0
  | e :: es => e.weight + weights es

theorem Event.weights_append (es fs : List Event) :
    weights (es ++ fs) = weights es + weights fs := by
  induction es with
  | nil => simp [weights]
  | cons e es ih => simp [weights, ih, Nat.add_assoc]

theorem Event.weights_map_link (es : List LinkEvent) :
    weights (es.map .link) = LinkEvent.weights es := by
  induction es with
  | nil => rfl
  | cons e es ih => simp [weights, LinkEvent.weights, Event.weight, ih]

/-- The answer to a call: the radio afterwards, whether it accepted the call, and its events. -/
structure RadioAnswer (ρ : Type) where
  radio : ρ
  result : Except RadioError Unit
  events : List LinkEvent := []

/-- Everything that can be driven as a radio. -/
class Radio (ρ : Type) where
  scan : ρ → ρ × ScanReply
  startAccessPoint : AccessPoint → ρ → RadioAnswer ρ
  join : Credentials → ρ → RadioAnswer ρ
  rejoin : ρ → RadioAnswer ρ
  stop : ρ → RadioAnswer ρ
  startAccessPoint_events : ∀ a r, (startAccessPoint a r).events = []
  stop_events : ∀ r, (stop r).events = []
  join_weights : ∀ c r, LinkEvent.weights (join c r).events ≤ 4
  rejoin_weights : ∀ r, LinkEvent.weights (rejoin r).events ≤ 2

end Onboarding
