import Onboarding.Boot
import Onboarding.Proofs.Supervisor.Operations
import Onboarding.Proofs.Supervisor.Requests
import Onboarding.Radio.Host

/-!
# Mode, connectivity and session agree

A supervisor keeps what it does with the radio, what clients are told about the network, and the
session of its portal in three places. Every call writes to some of them, also where it stops at an
error, and every call leaves them in agreement (`Supervisor.Agrees`). Nothing is assumed about the
radio, the store, the scans and the port, which may fail at any time and change between calls.

## Main results

* `Supervisor.Agrees.perform`: every call preserves the agreement.
* `Supervisor.agrees_performAll`: a supervisor is in agreement after any calls, and a session that
  is open and not claimed tells clients that the device is being provisioned, with its address.
-/

namespace Onboarding

/-- What is asked of a supervisor, and what happens around it. -/
inductive SupervisorCall (ρ : Type) where
  | startProvisioning
  | stopProvisioning
  | connectStation (c : Credentials)
  | ensureStation (c : Credentials)
  | clearAndRestart
  | processEvents
  /-- Somebody queues events. -/
  | queue (events : List Event)
  /-- A client makes a request. -/
  | request (r : Request)
  /-- A scan that nobody waits for any more comes to its end. -/
  | scanned (reply : ScanReply)
  /-- The host changes what a supervisor does not own. -/
  | meanwhile (radio : ρ) (store : Store) (cache : ScanCache) (port : Faults)

namespace Supervisor

variable {ρ : Type}

/-- The mode, the connectivity and the session of a supervisor agree. -/
structure Agrees (s : Supervisor ρ) : Prop where
  disconnected_iff : s.hub.connectivity.mode = .disconnected ↔ s.state = .idle
  connected : s.hub.connectivity.mode = .connected → s.state = .stationConnected
  ip_iff : s.hub.connectivity.ip.isSome = true ↔ s.hub.connectivity.mode = .connected
  session : s.session.isSome = true → s.state = .apActive
  address : s.address = ⟨192, 168, 4, 1⟩

/-- Two supervisor states of which nobody could tell the mode, the connectivity and the presence of
a session apart. -/
structure SameFront (s t : Supervisor ρ) : Prop where
  state_eq : t.state = s.state
  connectivity_eq : t.hub.connectivity = s.hub.connectivity
  session_eq : t.session.isSome = s.session.isSome
  address_eq : t.address = s.address

/-- Scans change nothing of the front. -/
theorem ScansOnly.sameFront {s t : Supervisor ρ} (h : s.ScansOnly t) : s.SameFront t := by
  obtain ⟨radio, cache, scanning, rfl⟩ := h
  exact ⟨Eq.refl _, Eq.refl _, Option.isSome_map, Eq.refl _⟩

/-- A request changes nothing of the front: a session that it closes is still there. -/
theorem sameFront_handle [Radio ρ] (s : Supervisor ρ) (r : Request) :
    s.SameFront (s.handle r).1 := by
  cases hl : s.isListening with
  | false =>
      rw [handle_of_not_isListening hl]
      exact ⟨rfl, rfl, rfl, rfl⟩
  | true =>
      obtain ⟨x, hx, hactive⟩ := isListening_iff.mp hl
      rw [handle_of_session hx hactive]
      refine ⟨rfl, Portal.connectivity_handle _ r, ?_, rfl⟩
      rw [hx]
      rfl

namespace Agrees

variable {s t : Supervisor ρ}

theorem congr (hs : s.Agrees) (h : s.SameFront t) : t.Agrees where
  disconnected_iff := by
    rw [h.connectivity_eq, h.state_eq]
    exact hs.disconnected_iff
  connected := by
    rw [h.connectivity_eq, h.state_eq]
    exact hs.connected
  ip_iff := by
    rw [h.connectivity_eq]
    exact hs.ip_iff
  session := by
    rw [h.session_eq, h.state_eq]
    exact hs.session
  address := h.address_eq.trans hs.address

/-- There is a session in one mode only. -/
theorem session_none (hs : s.Agrees) (h : s.state ≠ .apActive) : s.session = none := by
  cases hsession : s.session with
  | none => rfl
  | some x => exact absurd (hs.session (by rw [hsession]; rfl)) h

/-- While a network is being set up, any mode but the idle one agrees. -/
theorem of_provisioning (hconnectivity : t.hub.connectivity = .provisioning)
    (hstate : t.state ≠ .idle) (hsession : t.session.isSome = true → t.state = .apActive)
    (haddress : t.address = ⟨192, 168, 4, 1⟩) : t.Agrees where
  disconnected_iff := by simp [hconnectivity, Connectivity.provisioning, hstate]
  connected := by simp [hconnectivity, Connectivity.provisioning]
  ip_iff := by simp [hconnectivity, Connectivity.provisioning]
  session := hsession
  address := haddress

/-- Where there is neither network nor session, the idle mode agrees. -/
theorem of_disconnected (hconnectivity : t.hub.connectivity = .disconnected)
    (hstate : t.state = .idle) (hsession : t.session = none)
    (haddress : t.address = ⟨192, 168, 4, 1⟩) : t.Agrees where
  disconnected_iff := by simp [hconnectivity, Connectivity.disconnected, hstate]
  connected := by simp [hconnectivity, Connectivity.disconnected]
  ip_iff := by simp [hconnectivity, Connectivity.disconnected]
  session := by simp [hsession]
  address := haddress

/-! ### Operations -/

/-- Without a session the supervisor may go idle. -/
theorem toIdle (hsession : s.session = none) (haddress : s.address = ⟨192, 168, 4, 1⟩) :
    s.toIdle.Agrees :=
  of_disconnected rfl rfl hsession haddress

/-- Closing the portal changes neither the mode nor the connectivity. -/
theorem stopProvisioning (hs : s.Agrees) : s.stopProvisioning.Agrees := by
  rw [Supervisor.stopProvisioning]
  split
  · refine ⟨hs.disconnected_iff, hs.connected, hs.ip_iff, ?_, hs.address⟩
    intro hsome
    simp at hsome
  · exact hs

variable [Radio ρ]

/-- Whether the port can be had or not, opening a session ends in agreement. -/
theorem openSession (hsession : s.session = none) (haddress : s.address = ⟨192, 168, 4, 1⟩) :
    s.openSession.1.Agrees := by
  rw [Supervisor.openSession]
  dsimp only
  split
  · exact toIdle hsession haddress
  · refine of_provisioning rfl ?_ (fun _ => rfl) haddress
    simp [withConnectivity]

/-- Opening the portal ends in agreement, whatever fails on the way. -/
theorem startProvisioning (hs : s.Agrees) : s.startProvisioning.1.Agrees := by
  have hstop := hs.stopProvisioning
  rw [Supervisor.startProvisioning]
  split
  · exact hs
  · dsimp only
    split
    · rename_i t e heq
      obtain ⟨rfl, -⟩ := Prod.mk.inj heq
      exact hstop.congr ⟨rfl, rfl, rfl, rfl⟩
    · rename_i t heq
      obtain ⟨rfl, -⟩ := Prod.mk.inj heq
      exact openSession s.session_stopProvisioning hstop.address

/-- Joining a network ends in agreement, whether the radio accepts the credentials or not. -/
theorem connectStation (hs : s.Agrees) (c : Credentials) : (s.connectStation c).1.Agrees := by
  have hstop := hs.stopProvisioning
  rw [Supervisor.connectStation]
  split
  · rename_i t heq
    obtain ⟨rfl, -⟩ := Prod.mk.inj heq
    refine of_provisioning rfl ?_ ?_ hstop.address
    · simp [withConnectivity]
    · intro hsome
      simp [withConnectivity] at hsome
  · rename_i t e heq
    obtain ⟨rfl, -⟩ := Prod.mk.inj heq
    exact toIdle s.session_stopProvisioning hstop.address

theorem ensureStation (hs : s.Agrees) (c : Credentials) : (s.ensureStation c).1.Agrees := by
  rw [Supervisor.ensureStation]
  split
  · exact hs
  · exact hs.connectStation c

/-- A restart goes idle first. -/
theorem clearAndRestart (hs : s.Agrees) : s.clearAndRestart.Agrees := by
  have hcleared : s.cleared.Agrees := hs.congr ⟨rfl, rfl, rfl, rfl⟩
  have hidle : (s.cleared.stopProvisioning.call Radio.stop).1.toIdle.Agrees :=
    toIdle s.cleared.session_stopProvisioning hcleared.stopProvisioning.address
  exact hidle.startProvisioning

/-! ### Events -/

/-- What the radio reports counts in station mode only, where there is no session. -/
theorem handleLink (hs : s.Agrees) (e : LinkEvent) : (s.handleLink e).Agrees := by
  cases hstation : s.state.isStation with
  | false =>
      rw [handleLink_of_not_isStation hstation]
      exact hs
  | true =>
      have hidle : s.state ≠ .idle := by
        intro heq
        simp [heq, NetworkState.isStation] at hstation
      have hportal : s.state ≠ .apActive := by
        intro heq
        simp [heq, NetworkState.isStation] at hstation
      have hnone := hs.session_none hportal
      cases e with
      | stationStarted | clientJoined | clientLeft | clientGotIp => exact hs
      | stationConnected =>
          have hmode : s.hub.connectivity.mode ≠ .disconnected := mt hs.disconnected_iff.mp hidle
          rw [Supervisor.handleLink, if_pos hstation]
          refine ⟨?_, fun _ => rfl, hs.ip_iff, ?_, hs.address⟩
          · simp [hmode]
          · simp [hnone]
      | gotIp ip =>
          rw [Supervisor.handleLink, if_pos hstation]
          refine ⟨?_, fun _ => rfl, ?_, ?_, hs.address⟩
          · simp [withConnectivity, Connectivity.connected]
          · simp [withConnectivity, Connectivity.connected]
          · simp [withConnectivity, hnone]
      | stationDisconnected reason =>
          rw [Supervisor.handleLink, if_pos hstation, linkLost]
          split
          · exact hs.clearAndRestart
          · refine of_provisioning rfl ?_ ?_ hs.address
            · simp [withConnectivity, call]
            · simp [withConnectivity, call, hnone]

/-- Handling an event preserves the agreement. -/
theorem handleEvent (hs : s.Agrees) (e : Event) : (s.handleEvent e).Agrees := by
  cases e with
  | submitted c => exact hs.connectStation c
  | link e => exact hs.handleLink e

/-- Draining the queue preserves the agreement, event by event. -/
theorem drain (hs : s.Agrees) : s.drain.Agrees := by
  refine drain_induct ?_ hs
  intro t e rest _ ht
  have hrest : (t.withEvents rest).Agrees := ht.congr ⟨rfl, rfl, rfl, rfl⟩
  exact hrest.handleEvent e

end Agrees

/-! ### Calls in any order -/

variable [Radio ρ]

/-- The supervisor after a call. -/
def perform (s : Supervisor ρ) : SupervisorCall ρ → Supervisor ρ
  | .startProvisioning => s.startProvisioning.1
  | .stopProvisioning => s.stopProvisioning
  | .connectStation c => (s.connectStation c).1
  | .ensureStation c => (s.ensureStation c).1
  | .clearAndRestart => s.clearAndRestart
  | .processEvents => s.processEvents.1
  | .queue events => s.push events
  | .request r => (s.handle r).1
  | .scanned reply => s.finishScan reply
  | .meanwhile radio store cache port => { s with hub := { s.hub with radio, store, cache }, port }

/-- The supervisor after calls in their order. -/
def performAll (s : Supervisor ρ) (calls : List (SupervisorCall ρ)) : Supervisor ρ :=
  calls.foldl perform s

/-- **Every call preserves the agreement.** -/
theorem Agrees.perform {s : Supervisor ρ} (hs : s.Agrees) (call : SupervisorCall ρ) :
    (s.perform call).Agrees := by
  cases call with
  | startProvisioning => exact hs.startProvisioning
  | stopProvisioning => exact hs.stopProvisioning
  | connectStation c => exact hs.connectStation c
  | ensureStation c => exact hs.ensureStation c
  | clearAndRestart => exact hs.clearAndRestart
  | processEvents => exact hs.drain
  | queue events => exact hs.congr ⟨rfl, rfl, rfl, rfl⟩
  | request r => exact hs.congr (s.sameFront_handle r)
  | scanned reply => exact hs.congr (s.finishScan_scansOnly reply).sameFront
  | meanwhile radio store cache port => exact hs.congr ⟨rfl, rfl, rfl, rfl⟩

theorem Agrees.performAll {s : Supervisor ρ} (hs : s.Agrees) (calls : List (SupervisorCall ρ)) :
    (s.performAll calls).Agrees := by
  induction calls generalizing s with
  | nil => exact hs
  | cons call calls ih => exact ih (hs.perform call)

omit [Radio ρ] in
/-- In agreement, a supervisor with a session tells that a network is being set up. -/
theorem Agrees.connectivity_of_session {s : Supervisor ρ} (hs : s.Agrees)
    (h : s.session.isSome = true) : s.hub.connectivity = .provisioning := by
  have hstate : s.state = .apActive := hs.session h
  have hmode : s.hub.connectivity.mode = .provisioning := by
    cases hmode : s.hub.connectivity.mode with
    | provisioning => rfl
    | disconnected => simp [hs.disconnected_iff.mp hmode] at hstate
    | connected => simp [hs.connected hmode] at hstate
  have hip : s.hub.connectivity.ip = none := by
    have hnone : ¬s.hub.connectivity.ip.isSome = true := by
      rw [hs.ip_iff, hmode]
      simp
    simpa using hnone
  rw [Connectivity.provisioning, ← hmode, ← hip]

/-- In agreement, an open session that is not claimed answers that the device is being provisioned,
with the address of the portal. -/
theorem Agrees.handle_status {s : Supervisor ρ} (hs : s.Agrees) {x : Session}
    (hx : s.session = some x) (hactive : x.active = true) (hunclaimed : x.submitted = false)
    {r : Request} (hmethod : r.method = "GET") (hpath : r.route.1 = "/status") :
    (s.handle r).2 =
      some (.ok (.ofMembers [("status", .text "provisioning"), ("ip", .text "192.168.4.1")])) := by
  have hmode : s.hub.connectivity.mode = .provisioning := by
    rw [hs.connectivity_of_session (by rw [hx]; rfl)]
    rfl
  rw [handle_of_session hx hactive, Portal.handle_of_status hunclaimed hmethod hpath]
  simp only [Portal.status, hmode, hactive, if_true, hs.address]
  rfl

/-- **A supervisor is in agreement after any calls**, whatever fails, and its portal answers so. -/
theorem agrees_performAll (settings : Settings) (radio : ρ) (store : Store) (port : Faults)
    (calls : List (SupervisorCall ρ)) :
    let booted : Supervisor ρ := { Boot.supervisor settings radio store with port }
    let s := booted.performAll calls
    s.Agrees ∧ ∀ (x : Session) (r : Request), s.session = some x → x.active = true →
      x.submitted = false → r.method = "GET" → r.route.1 = "/status" →
        (s.handle r).2 = some (.ok
          (.ofMembers [("status", .text "provisioning"), ("ip", .text "192.168.4.1")])) := by
  intro booted s
  have hbooted : booted.Agrees := .of_disconnected rfl rfl rfl rfl
  have hs : s.Agrees := hbooted.performAll calls
  refine ⟨hs, ?_⟩
  intro x r hx hactive hunclaimed hmethod hpath
  exact hs.handle_status hx hactive hunclaimed hmethod hpath

/-- The network rejects the credentials that it was joined with, and the port is taken when the
portal opens. The supervisor goes idle, and the next attempt succeeds. -/
theorem agrees_performAll_of_port_taken :
    let radio : HostRadio := { networks := [] }
    let port : Faults := { coming := [true] }
    let calls : List (SupervisorCall HostRadio) :=
      [.connectStation ⟨"Home", ""⟩, .processEvents, .queue [.link (.stationDisconnected 15)],
        .processEvents, .startProvisioning]
    let request : Request := { method := "GET", target := "/status" }
    let booted : Supervisor HostRadio := { Boot.supervisor {} radio (.memory {}) with port }
    (booted.performAll (calls.take 4)).state = .idle ∧ (booted.performAll calls).Agrees ∧
      ((booted.performAll calls).handle request).2 = some (.ok
        (.ofMembers [("status", .text "provisioning"), ("ip", .text "192.168.4.1")])) := by
  intro radio port calls request booted
  have hidle : (booted.performAll (calls.take 4)).state = .idle := by decide +kernel
  have hsession : (booted.performAll calls).session = some { active := true } := by decide +kernel
  have hpath : request.route.1 = "/status" := by decide +kernel
  obtain ⟨hagrees, hstatus⟩ := agrees_performAll {} radio (.memory {}) port calls
  exact ⟨hidle, hagrees, hstatus _ request hsession rfl rfl rfl hpath⟩

end Supervisor

end Onboarding
