import Onboarding.Net.Address

/-!
# Connectivity

The coarse state of the device's network as clients and the lifecycle see it.
-/

namespace Onboarding

/-- Whether the device has a network, and whether one is being set up. -/
inductive LinkMode where
  | disconnected
  | provisioning
  | connected
  deriving Repr, DecidableEq

/-- The displayed name of a mode. -/
def LinkMode.name : LinkMode → String
  | disconnected => "disconnected"
  | provisioning => "provisioning"
  | connected => "connected"

/-- The mode and the station's address. -/
structure Connectivity where
  mode : LinkMode
  ip : Option Ipv4
  deriving Repr, DecidableEq

namespace Connectivity

def disconnected : Connectivity := ⟨.disconnected, none⟩

def provisioning : Connectivity := ⟨.provisioning, none⟩

def connected (ip : Ipv4) : Connectivity := ⟨.connected, some ip⟩

def isConnected (c : Connectivity) : Bool := c.mode = .connected

end Connectivity

end Onboarding
