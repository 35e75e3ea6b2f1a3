import Onboarding.Peers.Basic

/-!
# Peers that follow a script

What each other end answers is written down beforehand, and what it was asked is written down as it
comes. Events can be set to arrive with a certain call.
-/

namespace Onboarding

/-- The calls that events can arrive with. -/
inductive PeerCall where
  | probe
  | issue
  | start
  | poll
  deriving Repr, DecidableEq

/-- An event that arrives with a call: with the next of its kind if `after` is one, with the one
after that if it is two, and so on. -/
structure Arrival where
  call : PeerCall
  after : Nat
  event : Event
  deriving Repr, DecidableEq

/-- A messaging session as the script has it. -/
structure ScriptedMessaging where
  connected : Bool := false
  connectOnStart : Bool := false
  failStart : Bool := false
  /-- The poll that establishes the session; none if zero. -/
  connectAfter : Nat := 0
  starts : Nat := 0
  stops : Nat := 0
  /-- Polls since the last start. -/
  polls : Nat := 0
  /-- The certificates of the last start. -/
  certificates : Option Certificates := none
  deriving Repr, DecidableEq

/-- Scripted peers with their records. -/
structure ScriptedPeers where
  /-- The results of the coming probes; none is a failure. -/
  probes : List Bool := []
  checks : Nat := 0
  /-- How many of the coming requests are refused. -/
  refusals : Nat := 0
  certificates : Certificates
  /-- Device and token of each request, oldest first. -/
  requests : List (String × String) := []
  messaging : ScriptedMessaging := {}
  arrivals : List Arrival := []

namespace ScriptedPeers

/-- Counts a call down to the events that arrive with it. -/
def arrive (call : PeerCall) (p : ScriptedPeers) : ScriptedPeers × List Event :=
  let counted := p.arrivals.map fun a =>
    if a.call = call then { a with after := a.after - 1 } else a
  let due (a : Arrival) : Bool := a.call = call && a.after = 0
  ({ p with arrivals := counted.filter (!due ·) }, (counted.filter due).map (·.event))

/-- The next result of the script. -/
def probe (p : ScriptedPeers) : PeerAnswer ScriptedPeers Bool :=
  let (p, events) := p.arrive .probe
  { peers := { p with checks := p.checks + 1, probes := p.probes.drop 1 }
    result := p.probes.headD false
    events }

/-- Writes a request down and refuses it or not. -/
def issue (deviceId token : String) (p : ScriptedPeers) :
    PeerAnswer ScriptedPeers (Except PeerError Certificates) :=
  let (p, events) := p.arrive .issue
  let p := { p with requests := p.requests ++ [(deviceId, token)] }
  if p.refusals = 0 then { peers := p, result := .ok p.certificates, events }
  else { peers := { p with refusals := p.refusals - 1 }, result := .error (.status 500), events }

/-- Writes a start down; it fails, or it connects at once, or it leaves the session as it is. -/
def start (c : Certificates) (p : ScriptedPeers) :
    PeerAnswer ScriptedPeers (Except PeerError Unit) :=
  let (p, events) := p.arrive .start
  let m := p.messaging
  let m := { m with starts := m.starts + 1, polls := 0, certificates := some c }
  if m.failStart then
    { peers := { p with messaging := m }, result := .error (.notConfigured "broker"), events }
  else
    let m := { m with connected := m.connected || m.connectOnStart }
    { peers := { p with messaging := m }, result := .ok (), events }

/-- Counts a poll, which may be the one that establishes the session. -/
def poll (p : ScriptedPeers) : PeerAnswer ScriptedPeers Bool :=
  let (p, events) := p.arrive .poll
  let m := p.messaging
  let m := { m with polls := m.polls + 1 }
  let m := { m with connected := m.connected || m.polls = m.connectAfter }
  { peers := { p with messaging := m }, result := m.connected, events }

/-- Counts a stop and ends the session. -/
def stop (p : ScriptedPeers) : ScriptedPeers :=
  let m := p.messaging
  { p with messaging := { m with stops := m.stops + 1, connected := false } }

instance : Peers ScriptedPeers where
  probe := probe
  issue := issue
  start := start
  poll := poll
  stop := stop

end ScriptedPeers

end Onboarding
