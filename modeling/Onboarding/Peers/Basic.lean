import Onboarding.Credential
import Onboarding.Fault
import Onboarding.Radio.Basic

/-!
# The other ends that a device talks to

A device probes whether its network reaches the internet, asks an issuer for its certificates, and
keeps a messaging session. `Peers` is the class of everything that can stand at those other ends.
Any call may bring events, which are queued when it is made.
-/

namespace Onboarding

/-- Why a peer did not do as asked. -/
inductive PeerError where
  /-- Something that the device should have locally is not there. -/
  | notConfigured (what : String)
  /-- An HTTP status that is no success. -/
  | status (code : Nat)
  | invalidResponse (why : String)
  | host (error : HostError)
  deriving Repr, DecidableEq

/-- The text of a peer error. -/
def PeerError.message : PeerError → String
  | notConfigured what => what ++ " not configured"
  | status code => s!"unexpected HTTP status {code}"
  | invalidResponse why => "invalid response: " ++ why
  | host e => "I/O error: " ++ e.message

/-- The answer to a call: the peers afterwards, the result, and the events that came with it. -/
structure PeerAnswer (κ α : Type) where
  peers : κ
  result : α
  events : List Event := []

/-- Everything that can stand at the other ends. -/
class Peers (κ : Type) where
  /-- Whether the internet can be reached. -/
  probe : κ → PeerAnswer κ Bool
  /-- Certificates for a device with its provisioning token. -/
  issue : String → String → κ → PeerAnswer κ (Except PeerError Certificates)
  /-- Begins a messaging session. -/
  start : Certificates → κ → PeerAnswer κ (Except PeerError Unit)
  /-- Whether the session is established. -/
  poll : κ → PeerAnswer κ Bool
  /-- Ends the session. -/
  stop : κ → κ

end Onboarding
