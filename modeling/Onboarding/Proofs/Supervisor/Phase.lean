import Onboarding.Proofs.Radio.Host
import Onboarding.Proofs.Store.Refusals
import Onboarding.Proofs.Supervisor.Operations
import Onboarding.Proofs.Supervisor.Requests

/-!
# The phases of a supervisor over a host radio

As long as the store refuses nothing and the port can be had, a supervisor over a host radio is
always in one of four phases: it joins a network with the stored record, it listens for a
submission, it has accepted one that waits to be handled, or it is idle. The phase ties together the
radio's mode, the session, the queue and the store; events, requests and restarts lead from one
phase to another.

A supervisor goes idle by one event only: a submission with credentials that no network accepts. A
device that waits for a connection can then wait for nothing, which is what the proposition `waits`
of `Supervisor.Phase` is about.

## Main results

* `Supervisor.Sound.drain`, `Supervisor.Sound.handle`: a sound supervisor stays sound.
* `Supervisor.Phase.drain`: draining the queue leads from phase to phase.
* `Supervisor.Phase.handle`: so does a request.
* `Supervisor.Sound.phase_clearAndRestart`: a restart leads to a portal that listens.
-/

namespace Onboarding

namespace Store

/-- Over a store that refuses nothing a record can be cleared. -/
theorem Reliable.clearRecord {s : Store} (h : s.Reliable) :
    s.clearRecord.1.Reliable ∧ s.clearRecord.1.isProvisioned = .ok false := by
  obtain ⟨t, hclear, ht⟩ := h.perform clearWrites
  rw [Store.clearRecord, hclear]
  exact ⟨ht, isProvisioned_clearRecord hclear⟩

/-- Over a store that refuses nothing certificates can be saved, which changes no record. -/
theorem Reliable.saveCertificates {s : Store} (h : s.Reliable) (c : Certificates) :
    (s.saveCertificates c).1.Reliable ∧ (s.saveCertificates c).1.loadRecord = s.loadRecord ∧
      (s.saveCertificates c).1.isProvisioned = s.isProvisioned := by
  obtain ⟨t, hsave, ht⟩ := h.perform (certificateWrites c)
  have hget : ∀ k ∈ Key.provisioned :: Key.record, t.get? k = s.get? k :=
    fun _ hk => get?_record_saveCertificates hsave hk
  rw [Store.saveCertificates, hsave]
  exact ⟨ht, loadRecord_congr hget, isProvisioned_congr (hget _ List.mem_cons_self)⟩

end Store

namespace Supervisor

variable {ρ : Type}

/-- The store refuses nothing, the queue is read, and the portal's port can be had. -/
structure Sound (s : Supervisor ρ) : Prop where
  reliable : s.hub.store.Reliable
  heard : s.hub.inbox.closed = false
  port : s.port = .never

theorem Sound.keeps {s t : Supervisor ρ} (hs : s.Sound) (h : s.Keeps t) : t.Sound where
  reliable := h.store_eq ▸ hs.reliable
  heard := h.closed_eq.trans hs.heard
  port := h.port_eq hs.port

theorem Sound.cleared {s : Supervisor ρ} (hs : s.Sound) : s.cleared.Sound where
  reliable := hs.reliable.clearRecord.1
  heard := hs.heard
  port := hs.port

theorem Sound.withEvents {s : Supervisor ρ} (hs : s.Sound) (es : List Event) :
    (s.withEvents es).Sound :=
  ⟨hs.reliable, hs.heard, hs.port⟩

theorem Sound.scansOnly {s t : Supervisor ρ} (hs : s.Sound) (h : s.ScansOnly t) : t.Sound := by
  obtain ⟨radio, cache, scanning, rfl⟩ := h
  exact ⟨hs.reliable, hs.heard, hs.port⟩

theorem Sound.clearAndRestart [Radio ρ] {s : Supervisor ρ} (hs : s.Sound) :
    s.clearAndRestart.Sound :=
  hs.cleared.keeps s.keeps_clearAndRestart

theorem Sound.handleEvent [Radio ρ] {s : Supervisor ρ} (hs : s.Sound) (e : Event) :
    (s.handleEvent e).Sound := by
  rcases s.keeps_handleEvent e with hk | hk
  · exact hs.keeps hk
  · exact hs.cleared.keeps hk

theorem Sound.drain [Radio ρ] {s : Supervisor ρ} (hs : s.Sound) : s.drain.Sound :=
  drain_induct (fun _ e rest _ ht => (ht.withEvents rest).handleEvent e) hs

theorem Sound.handle [Radio ρ] {s : Supervisor ρ} (hs : s.Sound) (r : Request) :
    (s.handle r).1.Sound := by
  rcases handle_cases hs.reliable r with ⟨hscan, -⟩ | ⟨q, x, store, -, -, -, hsave, heq, -⟩
  · exact hs.scansOnly hscan
  · rw [heq]
    exact ⟨hs.reliable.of_perform hsave, (s.hub.inbox.closed_push _).trans hs.heard, hs.port⟩

/-- What a supervisor is up to. If a device `waits` for a connection that it asked for and the
supervisor is idle, then the credentials of the record are at fault. -/
inductive Phase (waits : Prop) (s : Supervisor ρ) : Prop
  /-- A network is joined with the stored record. -/
  | station (r : DeviceRecord) (state : s.state.isStation = true) (session : s.session = none)
      (quiet : s.submissions = []) (record : s.hub.store.loadRecord = .ok (some r))
      (usable : r.credentials.isValid = true)
  /-- The portal waits for a submission. -/
  | listening (x : Session) (state : s.state = .apActive) (session : s.session = some x)
      (active : x.active = true) (quiet : s.submissions = [])
      (unset : s.hub.store.isProvisioned ≠ .ok true)
  /-- A submission was accepted and waits to be handled. -/
  | claimed (x : Session) (r : DeviceRecord) (state : s.state = .apActive)
      (session : s.session = some x) (inactive : x.active = false)
      (queued : s.submissions = [r.credentials]) (record : s.hub.store.loadRecord = .ok (some r))
  /-- Nothing is going on. -/
  | idle (state : s.state = .idle) (session : s.session = none) (quiet : s.submissions = [])
      (unusable : waits →
        ∃ r, s.hub.store.loadRecord = .ok (some r) ∧ r.credentials.isValid = false)

namespace Phase

variable {waits waits' : Prop} {s t : Supervisor ρ}

/-- Who does not wait cannot wait for nothing. -/
theorem mono (h : Phase waits s) (hw : waits' → waits) : Phase waits' s := by
  cases h with
  | station r state session quiet record usable =>
      exact .station r state session quiet record usable
  | listening x state session active quiet unset =>
      exact .listening x state session active quiet unset
  | claimed x r state session inactive queued record =>
      exact .claimed x r state session inactive queued record
  | idle state session quiet unusable =>
      exact .idle state session quiet (unusable ∘ hw)

/-- The phase depends on the radio's mode, the session, the waiting credentials and the record. -/
theorem congr (h : Phase waits s) (hstate : t.state = s.state) (hsession : t.session = s.session)
    (hqueue : t.submissions = s.submissions)
    (hrecord : t.hub.store.loadRecord = s.hub.store.loadRecord)
    (hflag : t.hub.store.isProvisioned = s.hub.store.isProvisioned) : Phase waits t := by
  cases h with
  | station r state session quiet record usable =>
      exact .station r (hstate ▸ state) (hsession.trans session) (hqueue.trans quiet)
        (hrecord.trans record) usable
  | listening x state session active quiet unset =>
      exact .listening x (hstate.trans state) (hsession.trans session) active
        (hqueue.trans quiet) (hflag ▸ unset)
  | claimed x r state session inactive queued record =>
      exact .claimed x r (hstate.trans state) (hsession.trans session) inactive
        (hqueue.trans queued) (hrecord.trans record)
  | idle state session quiet unusable =>
      exact .idle (hstate.trans state) (hsession.trans session) (hqueue.trans quiet)
        (hrecord ▸ unusable)

/-- What keeps the frame, the mode and the session keeps the phase. -/
theorem of_keeps (h : Phase waits s) (hk : s.Keeps t) (hstate : t.state = s.state)
    (hsession : t.session = s.session) : Phase waits t :=
  h.congr hstate hsession hk.submissions_eq (congrArg Store.loadRecord hk.store_eq)
    (congrArg Store.isProvisioned hk.store_eq)

/-- A joined network is that of the record, and nothing waits. -/
theorem of_isStation (h : Phase waits s) (hs : s.state.isStation = true) : Phase waits' s := by
  cases h with
  | station r state session quiet record usable =>
      exact .station r state session quiet record usable
  | listening x state | claimed x r state | idle state => simp [state, NetworkState.isStation] at hs

end Phase

/-! ### Operations over a host radio -/

/-- Without a session the portal is opened with a new one. -/
theorem startProvisioning_of_session_none {s : Supervisor HostRadio} (hport : s.port = .never)
    (h : s.session = none) :
    s.startProvisioning.1.state = .apActive ∧
      s.startProvisioning.1.session = some { active := true } := by
  have hlisten : s.isListening = false := by rw [isListening, h]; rfl
  rw [startProvisioning_of_ok hlisten rfl]
  apply openSession_of_free
  change s.announced.port.next.1 = false
  rw [port_announced, hport]
  rfl

/-- Opening the portal over a store without a record leads to a portal that listens. -/
theorem Sound.phase_startProvisioning {waits : Prop} {s : Supervisor HostRadio} (hs : s.Sound)
    (hsession : s.session = none) (hquiet : s.submissions = [])
    (hunset : s.hub.store.isProvisioned ≠ .ok true) : Phase waits s.startProvisioning.1 := by
  have hk := s.keeps_startProvisioning
  obtain ⟨hstate, hnew⟩ := startProvisioning_of_session_none hs.port hsession
  exact .listening _ hstate hnew rfl (hk.submissions_eq.trans hquiet) (hk.store_eq ▸ hunset)

/-- **A restart leads to a portal that listens.** -/
theorem Sound.phase_clearAndRestart {waits : Prop} {s : Supervisor HostRadio} (hs : s.Sound)
    (hquiet : s.submissions = []) : Phase waits s.clearAndRestart := by
  let closed := (s.cleared.stopProvisioning.call Radio.stop).1.toIdle
  have hclosed : s.cleared.Keeps closed :=
    s.cleared.keeps_stopProvisioning.trans ((keeps_call _ Radio.stop).trans (keeps_toIdle _))
  have hsession : closed.session = none := s.cleared.session_stopProvisioning
  have hunset : closed.hub.store.isProvisioned ≠ .ok true := by
    rw [hclosed.store_eq]
    change s.hub.store.clearRecord.1.isProvisioned ≠ .ok true
    rw [hs.reliable.clearRecord.2]
    simp
  exact (hs.cleared.keeps hclosed).phase_startProvisioning hsession
    (hclosed.submissions_eq.trans hquiet) hunset

/-- Joining the network of the stored record is an attempt if any network accepts its credentials,
and otherwise leaves the supervisor idle. -/
theorem phase_connectStation {waits : Prop} {s : Supervisor HostRadio}
    (hquiet : s.submissions = []) {r : DeviceRecord}
    (hr : s.hub.store.loadRecord = .ok (some r)) :
    Phase waits (s.connectStation r.credentials).1 ∧
      (s.connectStation r.credentials).2 =
        if r.credentials.isValid then .ok () else .error (.radio .stationCredentials) := by
  have hk := s.keeps_connectStation r.credentials
  have hq := hk.submissions_eq.trans hquiet
  have hr' : (s.connectStation r.credentials).1.hub.store.loadRecord = .ok (some r) := by
    rw [hk.store_eq, hr]
  have hjoin := HostRadio.result_join r.credentials s.stopProvisioning.hub.radio
  cases hv : r.credentials.isValid with
  | true =>
      rw [hv, if_pos rfl] at hjoin
      obtain ⟨hresult, hstate, hsession⟩ := connectStation_of_ok hjoin
      have hstation : (s.connectStation r.credentials).1.state.isStation = true := by
        rw [hstate]
        rfl
      exact ⟨.station r hstation hsession hq hr' hv, hresult⟩
  | false =>
      rw [hv, if_neg Bool.false_ne_true] at hjoin
      obtain ⟨hresult, hstate, hsession⟩ := connectStation_of_error hjoin
      exact ⟨.idle hstate hsession hq fun _ => ⟨r, hr', hv⟩, hresult⟩

/-! ### Events -/

/-- What the radio reports leads from phase to phase. -/
theorem Phase.handleLink {waits : Prop} {s : Supervisor HostRadio} (hs : s.Sound)
    (h : Phase waits s) (e : LinkEvent) : Phase waits (s.handleLink e) := by
  cases hstate : s.state.isStation with
  | false =>
      rw [handleLink_of_not_isStation hstate]
      exact h
  | true =>
      cases h with
      | listening x state | claimed x r state | idle state =>
          simp [state, NetworkState.isStation] at hstate
      | station r state session quiet record usable =>
          cases e with
          | stationStarted | clientJoined | clientLeft | clientGotIp =>
              exact .station r state session quiet record usable
          | stationConnected | gotIp ip =>
              rw [Supervisor.handleLink, if_pos hstate]
              exact .station r rfl session quiet record usable
          | stationDisconnected reason =>
              rw [Supervisor.handleLink, if_pos hstate, linkLost]
              split
              · exact hs.phase_clearAndRestart quiet
              · let lost := { s with state := .stationDisconnected }.withConnectivity .provisioning
                have hlost : s.Keeps lost := ⟨rfl, rfl, rfl, id⟩
                have hk := hlost.trans (lost.keeps_call Radio.rejoin)
                exact .station r rfl session (hk.submissions_eq.trans quiet)
                  (hk.store_eq ▸ record) usable

/-- Handling the oldest event leads from phase to phase. -/
theorem Phase.handleEvent {waits : Prop} {s : Supervisor HostRadio} (hs : s.Sound)
    (h : Phase waits s) {e : Event} {rest : List Event} (he : s.hub.inbox.events = e :: rest) :
    Phase waits ((s.withEvents rest).handleEvent e) := by
  have hqueue := submissions_withEvents he
  cases e with
  | link e =>
      have h' : Phase waits (s.withEvents rest) := h.congr rfl rfl hqueue.symm rfl rfl
      exact h'.handleLink (hs.withEvents rest) e
  | submitted c =>
      have hpop : s.submissions = c :: (s.withEvents rest).submissions := hqueue
      cases h with
      | station r state session quiet | listening x state session active quiet
      | idle state session quiet => simp [quiet] at hpop
      | claimed x r state session inactive queued record =>
          -- the one submission that waits is that of the stored record
          obtain ⟨hc, hrest⟩ := List.cons.inj (queued.symm.trans hpop)
          subst hc
          exact (phase_connectStation hrest.symm record).1

/-- **Draining the queue leads from phase to phase**, and nothing waits afterwards. -/
theorem Phase.drain {waits : Prop} {s : Supervisor HostRadio} (hs : s.Sound)
    (h : Phase waits s) : Phase waits s.drain := by
  have hboth : s.drain.Sound ∧ Phase waits s.drain := by
    refine drain_induct (P := fun t => t.Sound ∧ Phase waits t) ?_ ⟨hs, h⟩
    rintro t e rest he ⟨ht, hphase⟩
    exact ⟨(ht.withEvents rest).handleEvent e, hphase.handleEvent ht he⟩
  exact hboth.2

/-! ### Requests -/

/-- A change of the scans does not change the phase. -/
theorem Phase.scansOnly {waits : Prop} {s t : Supervisor ρ} (h : Phase waits s)
    (hscan : s.ScansOnly t) : Phase waits t := by
  obtain ⟨radio, cache, scanning, rfl⟩ := hscan
  cases h with
  | station r state session quiet record usable =>
      refine .station r state ?_ quiet record usable
      rw [session, Option.map_none]
  | listening x state session active quiet unset =>
      refine .listening { x with scanning } state ?_ active quiet unset
      rw [session, Option.map_some]
  | claimed x r state session inactive queued record =>
      refine .claimed { x with scanning } r state ?_ inactive queued record
      rw [session, Option.map_some]
  | idle state session quiet unusable =>
      refine .idle state ?_ quiet unusable
      rw [session, Option.map_none]

/-- **A request leads from phase to phase.** -/
theorem Phase.handle [Radio ρ] {waits : Prop} {s : Supervisor ρ} (hs : s.Sound)
    (h : Phase waits s) (r : Request) : Phase waits (s.handle r).1 := by
  rcases handle_cases hs.reliable r with ⟨hscan, -⟩ | hsaved
  · exact h.scansOnly hscan
  · obtain ⟨q, x, store, hx, hactive, -, hsave, heq, -⟩ := hsaved
    have hload := Store.loadRecord_saveRecord hsave
    rw [heq]
    cases h with
    | station r state session | idle state session => simp [session] at hx
    | claimed y r state session inactive =>
        obtain rfl : y = x := Option.some.inj (session.symm.trans hx)
        simp [inactive] at hactive
    | listening y state session active quiet unset =>
        refine .claimed _ _ state rfl rfl ?_ hload
        have hpush : (s.hub.inbox.push [.submitted q.credentials]).submissions =
            s.submissions ++ [q.credentials] := by
          simp only [Inbox.submissions, Inbox.push, hs.heard, Bool.false_eq_true, if_false,
            List.filterMap_append, submissions]
          rfl
        exact hpush.trans (by rw [quiet]; rfl)

end Supervisor

end Onboarding
