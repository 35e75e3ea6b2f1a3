import Onboarding.Hub
import Onboarding.Portal.Request

/-!
# Provisioning sessions

While a session is active a client can look at the networks around, submit credentials and ask for
the state of the device. The first submission that the store takes claims the session; from then on
all submissions are refused.

Only one scan runs at a time: a scan that outlives its wait goes on, later requests for a fresh one
wait for it in vain, and its networks are stored when it ends (`Portal.finishScan`).
-/

namespace Onboarding

/-- What an endpoint answers. -/
structure Response where
  status : Nat
  body : Json
  /-- The method to use instead, if the method was the mistake. -/
  allow : Option String := none
  /-- Credentials to hand over once the answer is written. -/
  followUp : Option Credentials := none
  deriving Repr

namespace Response

/-- A success. -/
def ok (body : Json) : Response := { status := 200, body }

/-- A refused submission. -/
def refusal (e : RequestError) : Response := { status := e.status, body := e.body }

/-- The answer while somebody else holds the cache. -/
def cacheBusy : Response :=
  { status := 500, body := .ofMembers [("error", .text "cache_busy")] }

/-- The answer when there has been no scan to serve. -/
def scanFailed : Response where
  status := 500
  body := .ofMembers
    [("error", .text "scan_failed"), ("message", .text "No cached data available")]

/-- The answer to an accepted submission. -/
def saved (c : Credentials) : Response where
  status := 200
  body := .ofMembers [("status", .text "ok"), ("message", .text "Credentials saved")]
  followUp := some c

end Response

/-- The state of a session. -/
structure Session where
  /-- Whether requests are accepted. -/
  active : Bool := false
  /-- Whether a submission has claimed the session. -/
  submitted : Bool := false
  /-- Whether a scan is still running that nobody waits for any more. -/
  scanning : Bool := false
  deriving Repr, DecidableEq

/-- A session with the device around it. -/
structure Portal (ρ : Type) where
  hub : Hub ρ
  session : Session
  /-- The address of the access point. -/
  address : Ipv4

/-- One network in an answer. -/
def Network.json (n : Network) : Json :=
  .ofMembers [("ssid", .text n.ssid), ("rssi", .number (.integer n.rssi)),
    ("channel", .ofNat n.channel.toNat), ("secure", .bool n.secure)]

namespace Portal

variable {ρ : Type}

/-- Scans unless a scan is running; says whether fresh networks were stored. -/
def refresh [Radio ρ] (p : Portal ρ) : Portal ρ × Bool :=
  if p.session.scanning then (p, false)
  else
    let (radio, reply) := Radio.scan p.hub.radio
    let (cache, result) := p.hub.cache.store reply
    let session := { p.session with scanning := reply = .pending }
    ({ p with hub := { p.hub with radio, cache }, session }, result.isOk)

/-- The running scan ends. -/
def finishScan (p : Portal ρ) (reply : ScanReply) : Portal ρ :=
  if p.session.scanning then
    { p with
      hub := { p.hub with cache := (p.hub.cache.store reply).1 }
      session := { p.session with scanning := false } }
  else p

/-- The networks of a snapshot, if there is one. -/
def listing (s : Snapshot) (fresh : Bool) : Response :=
  if s.populated then
    .ok (.ofMembers [("networks", .array (s.networks.map Network.json)),
      ("count", .ofNat s.networks.length), ("cached", .bool (!fresh))])
  else .scanFailed

/-- The networks as the cache has them now. -/
def listed (p : Portal ρ) (fresh : Bool) : Response :=
  match p.hub.cache.read with
  | .ok s => listing s fresh
  | .error _ => .cacheBusy

/-- The networks around, scanned again if the client asks or if there is no snapshot. -/
def scan [Radio ρ] (p : Portal ρ) (wantsFresh : Bool) : Portal ρ × Response :=
  if wantsFresh then
    let (p, fresh) := p.refresh
    (p, p.listed fresh)
  else
    match p.hub.cache.read with
    | .error _ => (p, .cacheBusy)
    | .ok s =>
      if s.populated then (p, listing s false)
      else
        let (p, fresh) := p.refresh
        (p, p.listed fresh)

/-- Stores a submission, which claims the session. -/
def accept (p : Portal ρ) (r : ProvisionRequest) (authorization : Option String) :
    Portal ρ × Response :=
  if p.session.submitted then (p, .refusal .closed)
  else
    let record := r.record (authorization.bind Bearer.token?)
    match p.hub.withStore (Store.saveRecord record) with
    | (hub, .ok ()) =>
      ({ p with hub, session := { p.session with submitted := true } }, .saved r.credentials)
    | (hub, .error _) => ({ p with hub }, .refusal .saveFailed)

/-- A submission, with the body as it could be had. -/
def submit (p : Portal ρ) (body : Except RequestError Bytes) (authorization : Option String) :
    Portal ρ × Response :=
  match body.bind ProvisionRequest.parse with
  | .ok r => p.accept r authorization
  | .error e => (p, .refusal e)

/-- The state of the device. -/
def status (p : Portal ρ) : Response :=
  let c := p.hub.connectivity
  let answer (mode : LinkMode) (ip : Option Ipv4) : Response :=
    .ok <| .ofMembers <|
      ("status", .text mode.name) :: ip.toList.map fun x => ("ip", .text (String.ofList x.text))
  match c.mode, c.ip with
  | .connected, some ip => answer .connected (some ip)
  | .disconnected, _ => answer .disconnected none
  | _, _ => answer .provisioning (if p.session.active then some p.address else none)

/-- Opens or closes the session for requests. -/
def setActive (p : Portal ρ) (active : Bool) : Portal ρ :=
  { p with session := { p.session with active } }

/-- Closes the session and hands credentials over. -/
def complete (p : Portal ρ) (c : Credentials) : Portal ρ :=
  let p := p.setActive false
  { p with hub := p.hub.push [.submitted c] }

end Portal

end Onboarding
