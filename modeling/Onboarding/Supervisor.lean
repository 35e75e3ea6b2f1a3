import Onboarding.Portal.Http

/-!
# The network supervisor

The supervisor owns the radio's mode, the portal's session and the connectivity. It opens the access
point with a session on it, switches to the network of submitted credentials, and handles the queue
of events; credentials that a network refuses are cleared, which leads back to the access point.

Handling an event may queue others, so draining the queue is recursion on its weight: no event
brings as much as it weighs (`weights_handleEvent_lt`).

## Main statements

* `weights_handleEvent_lt`: an event brings less weight than its own.
* `inbox_processEvents`: afterwards the queue is empty.
-/

namespace Onboarding

/-- What the supervisor is doing with the radio. -/
inductive NetworkState where
  | idle
  | apActive
  | stationConnecting
  | stationConnected
  | stationDisconnected
  deriving Repr, DecidableEq

/-- The displayed name of a state. -/
def NetworkState.name : NetworkState → String
  | idle => "Idle"
  | apActive => "ApActive"
  | stationConnecting => "StationConnecting"
  | stationConnected => "StationConnected"
  | stationDisconnected => "StationDisconnected"

/-- Whether a station connection exists or is being attempted. -/
def NetworkState.isStation : NetworkState → Bool
  | stationConnecting | stationConnected | stationDisconnected => true
  | idle | apActive => false

/-- Why the supervisor could not do as asked. -/
inductive SupervisorError where
  | radio (error : RadioError)
  /-- The portal could not be opened. -/
  | server (error : HostError)
  deriving Repr, DecidableEq

/-- The text of a supervisor error. -/
def SupervisorError.message : SupervisorError → String
  | radio e => "radio error: " ++ e.message
  | server e => "provisioning server error: " ++ e.message

/-- A supervisor with everything that it drives. -/
structure Supervisor (ρ : Type) where
  hub : Hub ρ
  state : NetworkState := .idle
  /-- The session, as long as there is a listener for it. -/
  session : Option Session := none
  /-- Whether the listener's port can be had, for each of the coming attempts. -/
  port : Faults := .never
  accessPoint : AccessPoint := {}
  /-- The address of the access point. -/
  address : Ipv4 := ⟨192, 168, 4, 1⟩

namespace Supervisor

variable {ρ : Type}

/-- Whether the portal accepts requests. -/
def isListening (s : Supervisor ρ) : Bool :=
  s.session.any Session.active

def withConnectivity (s : Supervisor ρ) (c : Connectivity) : Supervisor ρ :=
  { s with hub := { s.hub with connectivity := c } }

/-- Calls the radio. -/
def call (s : Supervisor ρ) (f : ρ → RadioAnswer ρ) : Supervisor ρ × Except RadioError Unit :=
  let (hub, result) := s.hub.answered (f s.hub.radio)
  ({ s with hub }, result)

/-- Without access point and station. -/
def toIdle (s : Supervisor ρ) : Supervisor ρ :=
  { s.withConnectivity .disconnected with state := .idle }

/-- Ends the session, if there is one, and forgets the networks scanned for it. -/
def stopProvisioning (s : Supervisor ρ) : Supervisor ρ :=
  match s.session with
  | some _ => { s with session := none, hub := s.hub.invalidateCache }
  | none => s

/-- The error of a port that somebody else has. -/
def portTaken : SupervisorError :=
  .server ⟨.addressInUse, none⟩

variable [Radio ρ]

/-- Opens a session on the access point that is up. Where the port cannot be had, the radio is
switched off again. -/
def openSession (s : Supervisor ρ) : Supervisor ρ × Except SupervisorError Unit :=
  let (fails, port) := s.port.next
  let s := { s with port }
  if fails then
    let (s, _) := s.call Radio.stop
    ({ s with hub := s.hub.invalidateCache }.toIdle, .error portTaken)
  else
    ({ s with session := some { active := true }, state := .apActive }.withConnectivity
      .provisioning, .ok ())

/-- Makes sure that the portal accepts requests: unless it does, the access point is opened, the
networks are scanned, and a new session begins. A scan that fails is left to the first client. -/
def startProvisioning (s : Supervisor ρ) : Supervisor ρ × Except SupervisorError Unit :=
  if s.isListening then (s, .ok ())
  else
    let s := s.stopProvisioning
    match s.call (Radio.startAccessPoint s.accessPoint) with
    | (s, .error e) => (s, .error (.radio e))
    | (s, .ok ()) => openSession { s with hub := s.hub.refreshCache.1 }

/-- Ends the session and joins a network. -/
def connectStation (c : Credentials) (s : Supervisor ρ) :
    Supervisor ρ × Except SupervisorError Unit :=
  match s.stopProvisioning.call (Radio.join c) with
  | (s, .ok ()) =>
    ({ s with state := .stationConnecting }.withConnectivity .provisioning, .ok ())
  | (s, .error e) => (s.toIdle, .error (.radio e))

/-- Joins a network unless a station connection exists or is being attempted. -/
def ensureStation (c : Credentials) (s : Supervisor ρ) :
    Supervisor ρ × Except SupervisorError Unit :=
  if s.state.isStation then (s, .ok ()) else s.connectStation c

/-- Clears the record, switches everything off and opens the access point again. What fails on the
way is left as it is. -/
def clearAndRestart (s : Supervisor ρ) : Supervisor ρ :=
  let (hub, _) := s.hub.withStore Store.clearRecord
  let s := { s with hub }.stopProvisioning
  let (s, _) := s.call Radio.stop
  s.toIdle.startProvisioning.1

/-- A lost link: refused credentials are cleared, and any other link is joined again. -/
def linkLost (reason : UInt16) (s : Supervisor ρ) : Supervisor ρ :=
  match Disconnect.classify reason with
  | .credentialRejected => s.clearAndRestart
  | .transient =>
    let s := { s with state := .stationDisconnected }.withConnectivity .provisioning
    (s.call Radio.rejoin).1

/-- Handles what the radio reports. Reports about the station count in station mode only. -/
def handleLink (e : LinkEvent) (s : Supervisor ρ) : Supervisor ρ :=
  match e with
  | .stationConnected =>
    if s.state.isStation then { s with state := .stationConnected } else s
  | .gotIp ip =>
    if s.state.isStation then
      { s with state := .stationConnected }.withConnectivity (.connected ip)
    else s
  | .stationDisconnected reason => if s.state.isStation then s.linkLost reason else s
  | .stationStarted | .clientJoined _ | .clientLeft _ | .clientGotIp _ => s

/-- Handles one event. -/
def handleEvent (e : Event) (s : Supervisor ρ) : Supervisor ρ :=
  match e with
  | .submitted c => (s.connectStation c).1
  | .link e => s.handleLink e

/-- The weight of the queue. -/
def load (s : Supervisor ρ) : Nat :=
  Event.weights s.hub.inbox.events

omit [Radio ρ] in
theorem load_withConnectivity (s : Supervisor ρ) (c : Connectivity) :
    (s.withConnectivity c).load = s.load := rfl

omit [Radio ρ] in
theorem load_toIdle (s : Supervisor ρ) : s.toIdle.load = s.load := rfl

omit [Radio ρ] in
theorem load_stopProvisioning (s : Supervisor ρ) : s.stopProvisioning.load = s.load := by
  unfold stopProvisioning
  split <;> rfl

omit [Radio ρ] in
theorem load_call_le (s : Supervisor ρ) (f : ρ → RadioAnswer ρ) :
    (s.call f).1.load ≤ s.load + LinkEvent.weights (f s.hub.radio).events := by
  have h := s.hub.inbox.weights_push_le ((f s.hub.radio).events.map .link)
  rw [Event.weights_map_link] at h
  exact h

omit [Radio ρ] in
theorem load_call_of_quiet (s : Supervisor ρ) (f : ρ → RadioAnswer ρ)
    (h : ∀ r, (f r).events = []) : (s.call f).1.load ≤ s.load := by
  have := s.load_call_le f
  simpa [h, LinkEvent.weights] using this

theorem load_openSession (s : Supervisor ρ) : s.openSession.1.load ≤ s.load := by
  unfold openSession
  dsimp only
  split
  · exact load_call_of_quiet { s with port := s.port.next.2 } Radio.stop Radio.stop_events
  · exact Nat.le_refl _

theorem load_startProvisioning (s : Supervisor ρ) : s.startProvisioning.1.load ≤ s.load := by
  unfold startProvisioning
  split
  · exact Nat.le_refl _
  · have h := s.stopProvisioning.load_call_of_quiet
      (Radio.startAccessPoint s.stopProvisioning.accessPoint)
      (Radio.startAccessPoint_events _)
    rw [load_stopProvisioning] at h
    dsimp only
    split
    · rename_i t e heq
      rw [heq] at h
      exact h
    · rename_i t heq
      rw [heq] at h
      exact Nat.le_trans (load_openSession _) h

theorem load_connectStation (c : Credentials) (s : Supervisor ρ) :
    (s.connectStation c).1.load ≤ s.load + 4 := by
  have h := s.stopProvisioning.load_call_le (Radio.join c)
  have hw := Radio.join_weights c s.stopProvisioning.hub.radio
  rw [load_stopProvisioning] at h
  unfold connectStation
  split <;>
  · rename_i t _ heq
    rw [heq] at h
    simp only [load_withConnectivity, load_toIdle] at *
    exact Nat.le_trans h (Nat.add_le_add_left hw _)

theorem load_clearAndRestart (s : Supervisor ρ) : s.clearAndRestart.load ≤ s.load := by
  unfold clearAndRestart
  dsimp only
  refine Nat.le_trans (load_startProvisioning _) ?_
  rw [load_toIdle]
  refine Nat.le_trans (load_call_of_quiet _ _ Radio.stop_events) ?_
  rw [load_stopProvisioning]
  exact Nat.le_refl _

theorem load_linkLost (reason : UInt16) (s : Supervisor ρ) :
    (s.linkLost reason).load ≤ s.load + 2 := by
  unfold linkLost
  split
  · exact Nat.le_trans s.load_clearAndRestart (Nat.le_add_right _ _)
  · exact Nat.le_trans (load_call_le _ _) (Nat.add_le_add_left (Radio.rejoin_weights _) _)

/-- An event brings less weight than its own. -/
theorem weights_handleEvent_lt (e : Event) (s : Supervisor ρ) :
    (s.handleEvent e).load < s.load + e.weight := by
  cases e with
  | submitted c => exact Nat.lt_succ_of_le (s.load_connectStation c)
  | link e =>
    simp only [handleEvent, handleLink, Event.weight]
    cases e with
    | stationDisconnected reason =>
      simp only [LinkEvent.weight]
      split
      · exact Nat.lt_succ_of_le (s.load_linkLost reason)
      · omega
    | stationConnected => simp only [LinkEvent.weight]; split <;> exact Nat.lt_succ_self _
    | gotIp ip => simp only [LinkEvent.weight]; split <;> exact Nat.lt_succ_self _
    | stationStarted | clientJoined | clientLeft | clientGotIp => exact Nat.lt_succ_self _

/-- The supervisor with another queue. -/
def withEvents (s : Supervisor ρ) (es : List Event) : Supervisor ρ :=
  { s with hub := { s.hub with inbox := { s.hub.inbox with events := es } } }

/-- Handles all events, also those that are queued on the way; gives their number. -/
def processEvents (s : Supervisor ρ) : Supervisor ρ × Nat :=
  match _h : s.hub.inbox.events with
  | [] => (s, 0)
  | e :: rest =>
    let (t, handled) := processEvents ((s.withEvents rest).handleEvent e)
    (t, handled + 1)
termination_by s.load
decreasing_by
  have h₁ := weights_handleEvent_lt e (s.withEvents rest)
  have h₂ : s.load = (s.withEvents rest).load + e.weight := by
    simp only [load, withEvents, _h, Event.weights]
    omega
  omega

/-- Handles all events. -/
def drain (s : Supervisor ρ) : Supervisor ρ :=
  s.processEvents.1

theorem processEvents_of_nil {s : Supervisor ρ} (h : s.hub.inbox.events = []) :
    s.processEvents = (s, 0) := by
  rw [processEvents]
  split
  · rfl
  · simp_all

theorem processEvents_of_cons {s : Supervisor ρ} {e : Event} {rest : List Event}
    (h : s.hub.inbox.events = e :: rest) :
    s.processEvents =
      (((s.withEvents rest).handleEvent e).processEvents.1,
        ((s.withEvents rest).handleEvent e).processEvents.2 + 1) := by
  rw [processEvents]
  split
  · simp_all
  · rename_i e' rest' h'
    rw [h] at h'
    obtain ⟨rfl, rfl⟩ := List.cons.inj h'
    rfl

/-- After draining, the queue is empty. -/
theorem inbox_processEvents (s : Supervisor ρ) : s.processEvents.1.hub.inbox.events = [] := by
  fun_induction processEvents s with
  | case1 s h => exact h
  | case2 s e rest h t handled heq ih => simpa [heq] using ih

/-- Queues events. -/
def push (s : Supervisor ρ) (es : List Event) : Supervisor ρ :=
  { s with hub := s.hub.push es }

/-- Answers a request on the session; there is no answer if the portal does not accept requests. -/
def handle (s : Supervisor ρ) (r : Request) : Supervisor ρ × Option Response :=
  match s.session with
  | some session =>
    if session.active then
      let (p, response) := Portal.handle ⟨s.hub, session, s.address⟩ r
      ({ s with hub := p.hub, session := some p.session }, some response)
    else (s, none)
  | none => (s, none)

end Supervisor

end Onboarding
