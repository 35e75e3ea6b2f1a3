import Onboarding.Fault
import Onboarding.Net.Address
import Onboarding.Net.Authority
import Onboarding.Net.Shorthand

/-!
# Connections to targets

What a connection attempt finds: whether there is a route at all, and what listens where. A
connection is seen from the client's end: bytes that came and were never read, and whether the
other end has closed it.
-/

namespace Onboarding

/-- Whether the network takes packets to other ends. -/
inductive Route where
  | available
  | unreachable
  deriving Repr, DecidableEq

/-- The network as a client sees it. -/
structure Surroundings where
  route : Route
  /-- Where something listens. -/
  listeners : List SocketAddress
  deriving Repr, DecidableEq

namespace Surroundings

/-- What stops a connection attempt where there is no network. No route leads to a dotted address,
in either spelling, or to a group of hosts. For any other colon address the host has no address of
its own to call from; one that needs a scope and has none is refused before that. -/
def obstacle : SocketAddress → HostFailure
  | .v4 .. => .networkUnreachable
  | .v6 ip scope _ =>
    if ip.mapped?.isSome ∨ ip.isMulticast then .networkUnreachable
    else if ip.isLinkLocal ∧ scope = 0 then .invalidInput
    else .addressNotAvailable

/-- Tries to connect to an address. -/
def connect (s : Surroundings) (address : SocketAddress) : Except HostError Unit :=
  match s.route with
  | .unreachable => .error ⟨obstacle address, none⟩
  | .available =>
    if address ∈ s.listeners then .ok () else .error ⟨.connectionRefused, none⟩

end Surroundings

namespace Authority

/-- The error of a host that is a name and not an address. -/
def unresolved : HostError :=
  ⟨.other, some "failed to lookup address information"⟩

/-- The error of a host with a zero character, which is no name either. -/
def unnameable : HostError :=
  ⟨.invalidInput, some "file name contained an unexpected NUL byte"⟩

/-- The address that an authority spells, where it is not a name. -/
def address? (cs : List Char) : Option SocketAddress :=
  (SocketAddress.parse? cs).or do
    let (host, p) ← Text.cutAtLast ':' cs
    let port ← Numeral.parse? 65535 p
    match Ipv4.ofShorthand? host with
    | some ip => return .v4 ip port.toUInt16
    | none =>
      let (ip, r) ← Address.ipv6 host
      let (scope, r) := SocketAddress.readScope r
      if r.isEmpty then return .v6 ip scope.toUInt32 port.toUInt16 else none

/-- The address that a target leads to. -/
def resolve (target : String) (port : Nat) : Except HostError SocketAddress :=
  let cs := of target.toList port
  match address? cs with
  | some a => .ok a
  | none => .error (if '\x00' ∈ cs then unnameable else unresolved)

end Authority

/-- The client's end of a connection. -/
structure Connection where
  /-- Whether bytes came; nobody reads them. -/
  unread : Bool := false
  closedByPeer : Bool := false
  deriving Repr, DecidableEq

namespace Connection

/-- Whether a look at the next byte finds one, or finds that it may still come. -/
def isAlive (c : Connection) : Bool :=
  c.unread || !c.closedByPeer

/-- The other end sends a byte, if it has not closed the connection. -/
def receive (c : Connection) : Connection :=
  { c with unread := c.unread || !c.closedByPeer }

/-- The other end closes the connection. -/
def hangUp (c : Connection) : Connection :=
  { c with closedByPeer := true }

end Connection

/-- A client that holds at most one connection to a broker. -/
structure TcpSession where
  broker : String
  connection : Option Connection := none
  deriving Repr, DecidableEq

namespace TcpSession

/-- The port of a broker without one. -/
def defaultPort : Nat := 8883

/-- Opens the connection; a client that has one keeps it. -/
def start (around : Surroundings) (s : TcpSession) : TcpSession × Except HostError Unit :=
  match s.connection with
  | some _ => (s, .ok ())
  | none =>
    match (Authority.resolve s.broker defaultPort).bind around.connect with
    | .ok () => ({ s with connection := some {} }, .ok ())
    | .error e => (s, .error e)

/-- Whether there is a connection that the other end has not closed, or that still has bytes. -/
def isConnected (s : TcpSession) : Bool :=
  s.connection.any Connection.isAlive

/-- Closes the connection. -/
def stop (s : TcpSession) : TcpSession :=
  { s with connection := none }

/-- What the other end does to the connection, if there is one. -/
def peer (f : Connection → Connection) (s : TcpSession) : TcpSession :=
  { s with connection := s.connection.map f }

end TcpSession

namespace Reachability

/-- The port of a probe target without one. -/
def defaultPort : Nat := 443

/-- Whether a connection to the target can be opened. -/
def check (around : Surroundings) (target : String) : Bool :=
  ((Authority.resolve target defaultPort).bind around.connect).isOk

end Reachability

end Onboarding
