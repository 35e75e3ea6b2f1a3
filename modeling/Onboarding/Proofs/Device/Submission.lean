import Onboarding.Proofs.Device.Run
import Onboarding.Proofs.Supervisor.Lasting
import Onboarding.Proofs.Supervisor.Phase
import Onboarding.Proofs.Supervisor.Queue

/-!
# What becomes of a submission

A submission takes a device over a host's radio through three paths. A listed network is joined in
the step that finds the submission in the queue, and the step after it finds the connection. A
network that is not listed is lost in the same step, its record is cleared, and the portal opens
again. Credentials that no network accepts stay in the store for one step, in which the device
leaves access point mode with them; the next one is refused by the radio and clears them. So after
two steps either the device is connected with the record it was given, or nothing of it is left and
the portal waits for another.

## Main results

* `Device.closed_undergo`, `Radio.Lasting.undergo`: what does not change along a run.
* `Supervisor.drain_of_listed`, `Supervisor.drain_of_unlisted`, `Supervisor.drain_of_invalid`: what
  a drain makes of a submission.
* `Device.Submitted.step_step`: what two steps make of it.
* `Device.submission_joins_or_reopens`: all of this for a request at any time of any run.
-/

namespace Onboarding

/-! ### What does not change along a run -/

section Run

variable {ρ κ : Type} [Radio ρ] [Peers κ]

/-- No move closes the queue. -/
theorem Device.closed_move {stage : Stage} {d e : Device ρ κ} (hmove : Device.Move stage d e) :
    e.supervisor.hub.inbox.closed = d.supervisor.hub.inbox.closed := by
  cases hmove with
  | drain => exact d.supervisor.closed_drain
  | count | equip | keep | stop => rfl
  | probe | issue | start | poll => exact d.supervisor.hub.inbox.closed_push _
  | listen => exact d.supervisor.keeps_startProvisioning.closed_eq
  | join _ r => exact (d.supervisor.keeps_ensureStation r.credentials).closed_eq
  | reset => exact d.supervisor.keeps_clearAndRestart.closed_eq

/-- Nor does anything else that happens. -/
theorem Device.closed_undergo (d : Device ρ κ) (happening : Happening) :
    (d.undergo happening).supervisor.hub.inbox.closed = d.supervisor.hub.inbox.closed := by
  cases happening with
  | step =>
      have hact : d.drain.act.1.supervisor.hub.inbox.closed = d.supervisor.hub.inbox.closed :=
        Device.moves_induct
          (P := fun e => e.supervisor.hub.inbox.closed = d.supervisor.hub.inbox.closed)
          (fun _ _ hmove h => (Device.closed_move hmove).trans h)
          d.drain.moves_act d.supervisor.closed_drain
      exact hact
  | wait => exact d.supervisor.closed_drain
  | link e => exact d.supervisor.hub.inbox.closed_push _
  | request r =>
      have hhandle : (d.supervisor.handle r).1.hub.inbox.closed =
          d.supervisor.hub.inbox.closed := by
        rcases d.supervisor.inbox_handle r with hsame | ⟨c, hqueued⟩
        · rw [hsame]
        · rw [hqueued, Inbox.closed_push]
      exact hhandle
  | scanned reply =>
      obtain ⟨radio, cache, scanning, hscan⟩ := d.supervisor.finishScan_scansOnly reply
      rw [Device.undergo, hscan]

/-- What no call changes about a radio is not changed by a move. -/
theorem Radio.Lasting.move {P : ρ → Prop} (hP : Radio.Lasting P) {stage : Stage}
    {d e : Device ρ κ} (hmove : Device.Move stage d e) (h : P d.supervisor.hub.radio) :
    P e.supervisor.hub.radio := by
  cases hmove with
  | drain => exact hP.drain h
  | count | equip | stop | probe | issue | start | poll | keep => exact h
  | listen => exact hP.startProvisioning h
  | join _ r => exact hP.ensureStation h r.credentials
  | reset => exact hP.clearAndRestart h

/-- Nor is it changed by anything else that happens. -/
theorem Radio.Lasting.undergo {P : ρ → Prop} (hP : Radio.Lasting P) {d : Device ρ κ}
    (h : P d.supervisor.hub.radio) (happening : Happening) :
    P (d.undergo happening).supervisor.hub.radio := by
  cases happening with
  | step =>
      have hact : P d.drain.act.1.supervisor.hub.radio :=
        Device.moves_induct (P := fun e => P e.supervisor.hub.radio) (fun _ _ => hP.move)
          d.drain.moves_act (hP.drain h)
      exact hact
  | wait => exact hP.drain h
  | link => exact h
  | request r => exact hP.handle h r
  | scanned reply =>
      rw [Device.undergo, Supervisor.radio_finishScan]
      exact h

end Run

/-- A host's radio lists the same networks for ever. -/
theorem HostRadio.lasting_networks (networks : List Network) :
    Radio.Lasting fun r : HostRadio => r.networks = networks where
  scan _ h := h
  startAccessPoint _ _ h := h
  join c r h := by
    change (HostRadio.join c r).radio.networks = networks
    rw [HostRadio.join]
    split <;> exact h
  rejoin r h := by
    change (HostRadio.rejoin r).radio.networks = networks
    rw [HostRadio.rejoin]
    split <;> exact h
  stop _ h := h

/-! ### The drain of a submission -/

namespace Supervisor

variable {s : Supervisor HostRadio}

/-- A restart leaves nothing of the record, and opens the portal with a new session. -/
structure Reopened (s : Supervisor HostRadio) : Prop where
  erased : ∀ k ∈ Key.provisioned :: Key.record, s.hub.store.get? k = none
  session : s.session = some { active := true }
  quiet : s.hub.inbox.events = []

/-- A restart of a sound supervisor reopens the portal. -/
theorem Sound.reopened_clearAndRestart (hs : s.Sound) (hquiet : s.hub.inbox.events = []) :
    s.clearAndRestart.Reopened where
  erased := by
    intro k hk
    obtain ⟨t, hclear, -⟩ := hs.reliable.perform Store.clearWrites
    rw [s.store_clearAndRestart, Store.clearRecord, hclear]
    rw [Store.get?_clearRecord hclear, if_pos hk]
  session := by
    have hport : (s.cleared.stopProvisioning.call Radio.stop).1.toIdle.port = .never :=
      s.cleared.port_stopProvisioning.trans hs.port
    exact (startProvisioning_of_session_none hport s.cleared.session_stopProvisioning).2
  quiet := by
    rw [s.inbox_clearAndRestart]
    exact hquiet

/-- Events after a join are what the radio reports of it. -/
theorem events_connectStation (hopen : s.hub.inbox.closed = false) (c : Credentials) :
    ((s.withEvents []).connectStation c).1.hub.inbox.events =
      (Radio.join c s.hub.radio).events.map .link := by
  rw [inbox_connectStation]
  exact Inbox.events_push_of_open (i := (s.withEvents []).hub.inbox) hopen _

/-- A submission is joined with before anything else. -/
theorem drain_of_submitted {c : Credentials} (hqueue : s.hub.inbox.events = [.submitted c]) :
    s.drain = ((s.withEvents []).connectStation c).1.drain :=
  drain_of_cons hqueue

/-- Credentials that some network accepts are tried. -/
theorem isStation_connectStation {c : Credentials} (hvalid : c.isValid = true)
    (s : Supervisor HostRadio) : (s.connectStation c).1.state.isStation = true := by
  have hresult := HostRadio.result_join c s.stopProvisioning.hub.radio
  rw [hvalid, if_pos rfl] at hresult
  rw [(connectStation_of_ok hresult).2.1]
  rfl

/-- The reports of a network that was joined lead to its address. -/
theorem drain_of_reports (hstation : s.state.isStation = true) {ip : Ipv4}
    (hevents : s.hub.inbox.events =
      [.link .stationStarted, .link .stationConnected, .link (.gotIp ip)]) :
    s.drain.hub.store = s.hub.store ∧ s.drain.hub.connectivity.isConnected = true := by
  let started := s.withEvents [.link .stationConnected, .link (.gotIp ip)]
  let connected := { started.withEvents [.link (.gotIp ip)] with state := .stationConnected }
  let addressed := { connected.withEvents [] with state := .stationConnected }.withConnectivity
    (.connected ip)
  have hdrain : s.drain = addressed :=
    calc s.drain = started.drain := drain_of_cons hevents
      _ = connected.drain := by
        have hlink : (started.withEvents [.link (.gotIp ip)]).handleLink .stationConnected =
            connected := if_pos hstation
        rw [drain_of_cons (s := started) rfl, handleEvent, hlink]
      _ = addressed.drain := drain_of_cons (s := connected) rfl
      _ = addressed := drain_of_nil rfl
  rw [hdrain]
  exact ⟨rfl, rfl⟩

/-- **A listed network is joined**, with the store as it was. -/
theorem drain_of_listed (hopen : s.hub.inbox.closed = false) {c : Credentials}
    (hqueue : s.hub.inbox.events = [.submitted c]) (hvalid : c.isValid = true)
    (hlists : s.hub.radio.lists c.ssid = true) :
    s.drain.hub.store = s.hub.store ∧ s.drain.hub.connectivity.isConnected = true := by
  have hevents := events_connectStation hopen c
  rw [HostRadio.join_of_listed hvalid hlists] at hevents
  obtain ⟨hstore, hconnected⟩ := drain_of_reports (isStation_connectStation hvalid _) hevents
  rw [drain_of_submitted hqueue]
  exact ⟨hstore.trans ((s.withEvents []).keeps_connectStation c).store_eq, hconnected⟩

/-- The reports of a network that is out of range lead to a restart. -/
theorem drain_of_loss (hs : s.Sound) (hstation : s.state.isStation = true)
    (hevents : s.hub.inbox.events =
      [.link .stationStarted, .link (.stationDisconnected HostRadio.noNetworkFound)]) :
    s.drain.Reopened := by
  let started := s.withEvents [.link (.stationDisconnected HostRadio.noNetworkFound)]
  have hreopened := (hs.withEvents []).reopened_clearAndRestart rfl
  have hdrain : s.drain = (s.withEvents []).clearAndRestart :=
    calc s.drain = started.drain := drain_of_cons hevents
      _ = (s.withEvents []).clearAndRestart.drain := by
        have hlink : (started.withEvents []).handleLink
            (.stationDisconnected HostRadio.noNetworkFound) =
              (started.withEvents []).linkLost HostRadio.noNetworkFound := if_pos hstation
        rw [drain_of_cons (s := started) rfl, handleEvent, hlink, linkLost,
          HostRadio.classify_noNetworkFound]
        rfl
      _ = (s.withEvents []).clearAndRestart := drain_of_nil hreopened.quiet
  rw [hdrain]
  exact hreopened

/-- **A network that is not listed is given up**, with the record. -/
theorem drain_of_unlisted (hs : s.Sound) {c : Credentials}
    (hqueue : s.hub.inbox.events = [.submitted c]) (hvalid : c.isValid = true)
    (hlists : s.hub.radio.lists c.ssid = false) : s.drain.Reopened := by
  have hevents := events_connectStation hs.heard c
  rw [HostRadio.join_of_unlisted hvalid hlists] at hevents
  rw [drain_of_submitted hqueue]
  exact drain_of_loss ((hs.withEvents []).keeps (keeps_connectStation c _))
    (isStation_connectStation hvalid _) hevents

/-- **Credentials that no network accepts leave the supervisor idle**, with the store as it was. -/
theorem drain_of_invalid (hopen : s.hub.inbox.closed = false) {c : Credentials}
    (hqueue : s.hub.inbox.events = [.submitted c]) (hvalid : c.isValid = false) :
    s.drain.hub.store = s.hub.store ∧ s.drain.state = .idle ∧
      s.drain.hub.connectivity = .disconnected ∧ s.drain.hub.inbox.events = [] := by
  have hevents := events_connectStation hopen c
  rw [HostRadio.events_join_of_invalid hvalid] at hevents
  rw [drain_of_submitted hqueue, drain_of_nil hevents]
  have hresult := HostRadio.result_join c (s.withEvents []).stopProvisioning.hub.radio
  rw [hvalid, if_neg Bool.false_ne_true] at hresult
  refine ⟨((s.withEvents []).keeps_connectStation c).store_eq,
    (connectStation_of_error hresult).2.1, ?_, hevents⟩
  exact connectivity_connectStation_of_error hresult

end Supervisor

/-! ### Two steps -/

namespace Device

variable {κ : Type} {d : Device HostRadio κ} {r : DeviceRecord}

/-- A device in access point mode that has accepted a record and has not handled it yet. -/
structure Submitted (r : DeviceRecord) (d : Device HostRadio κ) : Prop where
  sound : d.supervisor.Sound
  stage : d.lifecycle.stage = .apMode
  queued : d.supervisor.hub.inbox.events = [.submitted r.credentials]
  record : d.store.loadRecord = .ok (some r)

/-- A device in access point mode without a record, with a new session. -/
structure Cleared (d : Device HostRadio κ) : Prop where
  stage : d.lifecycle.stage = .apMode
  reopened : d.supervisor.Reopened

/-- **A submission to a session that is not claimed is accepted.** -/
theorem submitted_request (hs : d.supervisor.Sound) (hstage : d.lifecycle.stage = .apMode)
    (hquiet : d.supervisor.hub.inbox.events = []) {x : Session}
    (hx : d.supervisor.session = some x) (hactive : x.active = true)
    (hunclaimed : x.submitted = false) {request : Request} {q : ProvisionRequest}
    (hq : request.submission? = some q) :
    (d.request request).2 = some (.saved q.credentials) ∧
      (d.request request).1.Submitted (q.record request.token?) := by
  obtain ⟨store, hsave, hreliable⟩ :=
    hs.reliable.perform (Store.saveWrites (q.record request.token?))
  have hhandle := Portal.handle_of_saved (p := ⟨d.supervisor.hub, x, d.supervisor.address⟩)
    hunclaimed hq hsave
  have hanswer := Supervisor.handle_of_session hx hactive request
  rw [hhandle] at hanswer
  rw [Device.request, hanswer]
  refine ⟨rfl, ⟨hreliable, ?_, hs.port⟩, hstage, ?_, Store.loadRecord_saveRecord hsave⟩
  · exact (d.supervisor.hub.inbox.closed_push _).trans hs.heard
  · have hpush := Inbox.events_push_of_open hs.heard [.submitted q.credentials]
    rwa [hquiet] at hpush

/-- Without events a device has nothing to drain. -/
theorem drain_of_quiet (hquiet : d.supervisor.hub.inbox.events = []) : d.drain = d := by
  rw [drain, Supervisor.drain_of_nil hquiet]

/-- A device in access point mode has a record after it drained its queue, and goes on with it. -/
theorem step_of_provisioned [Peers κ] (hstage : d.lifecycle.stage = .apMode)
    (hset : d.drain.isProvisioned = true) :
    d.step.supervisor = d.supervisor.drain ∧ d.step.lifecycle.stage = .connectingWifi ∧
      d.step.lifecycle.counters.stationRequested = false := by
  have hdrained : d.drain.lifecycle.stage = .apMode := hstage
  have hact : d.drain.act = (d.drain, .connectingWifi) := by
    rw [act, hdrained]
    exact if_pos hset
  refine ⟨?_, ?_, ?_⟩
  · rw [step, hact]
    rfl
  · rw [stage_step, hact]
  · rw [step, hact]
    simp [Lifecycle.enter, hdrained, Lifecycle.reset]

/-- A device in access point mode whose record was cleared stays there. -/
theorem cleared_step [Peers κ] (hstage : d.lifecycle.stage = .apMode)
    (h : d.drain.supervisor.Reopened) : d.step.Cleared := by
  have hdrained : d.drain.lifecycle.stage = .apMode := hstage
  have hunset : d.drain.isProvisioned = false := by
    rw [isProvisioned_eq_false_iff, store,
      Store.isProvisioned_of_get? (h.erased _ List.mem_cons_self)]
    simp
  have hstart : d.drain.supervisor.startProvisioning = (d.drain.supervisor, .ok ()) := by
    rw [Supervisor.startProvisioning, if_pos]
    rw [Supervisor.isListening, h.session]
    rfl
  have hact : d.drain.act = (d.drain, .apMode) := by
    rw [act, hdrained]
    change d.drain.apMode = _
    rw [apMode, if_neg (by simp [hunset]), hstart]
    exact congrArg (fun e : Device HostRadio κ => (e, Stage.apMode)) (drain_of_quiet h.quiet)
  refine ⟨by rw [stage_step, hact], ?_⟩
  rw [step, hact]
  exact h

/-- Who stays in access point mode without events stays so. -/
theorem Cleared.step [Peers κ] (h : d.Cleared) : d.step.Cleared := by
  refine cleared_step h.stage ?_
  rw [drain_of_quiet h.reopened.quiet]
  exact h.reopened

namespace Submitted

/-- What a drain keeps in the store sends the device on. -/
theorem isProvisioned_drain (h : d.Submitted r)
    (hstore : d.supervisor.drain.hub.store = d.supervisor.hub.store) :
    d.drain.store.loadRecord = .ok (some r) ∧ d.drain.isProvisioned = true := by
  have hrecord : d.drain.store.loadRecord = .ok (some r) := by
    rw [store, drain, hstore]
    exact h.record
  exact ⟨hrecord, isProvisioned_iff.mpr (Store.isProvisioned_of_loadRecord hrecord)⟩

/-- **A listed network is found connected** by the second step, with the record in the store. -/
theorem joins [Peers κ] (h : d.Submitted r) (hvalid : r.credentials.isValid = true)
    (hlists : d.supervisor.hub.radio.lists r.ssid = true) :
    d.step.step.lifecycle.stage = .wifiConnected ∧
      d.step.step.supervisor.hub.connectivity.isConnected = true ∧
      d.step.step.store.loadRecord = .ok (some r) := by
  obtain ⟨hstore, hconnected⟩ :=
    Supervisor.drain_of_listed h.sound.heard h.queued hvalid hlists
  obtain ⟨hrecord, hset⟩ := h.isProvisioned_drain hstore
  obtain ⟨hsupervisor, hstage, -⟩ := step_of_provisioned h.stage hset
  have hquiet : d.step.drain = d.step := by
    apply drain_of_quiet
    rw [hsupervisor]
    exact d.supervisor.events_drain
  have hset' : d.step.isProvisioned = true := by
    rw [isProvisioned, store, hsupervisor]
    exact hset
  have hact : d.step.drain.act = (d.step, .wifiConnected) := by
    rw [hquiet, act, hstage]
    change d.step.connectingWifi = _
    rw [connectingWifi, if_neg (by simp [hset']), if_pos (by rw [hsupervisor]; exact hconnected)]
  have hafter : d.step.step.supervisor = d.supervisor.drain := by
    rw [← hsupervisor, Device.step, hact]
  rw [stage_step, hact, store, hafter]
  exact ⟨rfl, hconnected, hrecord⟩

/-- **Credentials that no network accepts are cleared** by the second step, which asks the radio for
them once more. -/
theorem clears_invalid [Peers κ] (h : d.Submitted r) (hvalid : r.credentials.isValid = false) :
    d.step.step.Cleared := by
  obtain ⟨hstore, hstate, hconnectivity, hquiet⟩ :=
    Supervisor.drain_of_invalid h.sound.heard h.queued hvalid
  obtain ⟨hrecord, hset⟩ := h.isProvisioned_drain hstore
  obtain ⟨hsupervisor, hstage, hasked⟩ := step_of_provisioned h.stage hset
  have hdrained : d.step.drain = d.step := drain_of_quiet (hsupervisor ▸ hquiet)
  have hset' : d.step.isProvisioned = true := by
    rw [isProvisioned, store, hsupervisor]
    exact hset
  have hrecord' : d.step.store.loadRecord = .ok (some r) := by
    rw [store, hsupervisor]
    exact hrecord
  have hdisconnected : d.step.supervisor.hub.connectivity.isConnected = false := by
    rw [hsupervisor, hconnectivity]
    rfl
  have hidle : d.step.supervisor.state = .idle := hsupervisor ▸ hstate
  let refused := (d.step.supervisor.connectStation r.credentials).1
  have hensure : d.step.supervisor.ensureStation r.credentials =
      (refused, .error (.radio .stationCredentials)) := by
    have hresult := HostRadio.result_join r.credentials
      d.step.supervisor.stopProvisioning.hub.radio
    rw [hvalid, if_neg Bool.false_ne_true] at hresult
    rw [Supervisor.ensureStation, hidle, if_neg (by simp [NetworkState.isStation])]
    exact Prod.ext rfl (Supervisor.connectStation_of_error hresult).1
  have hact : d.step.drain.act =
      (({ d.step with supervisor := refused } : Device HostRadio κ).clearAndRestart, .apMode) := by
    rw [hdrained, act, hstage]
    change d.step.connectingWifi = _
    rw [connectingWifi, if_neg (by simp [hset']), if_neg (by simp [hdisconnected]),
      if_neg (by simp [hasked]), requestStation, hrecord']
    dsimp only
    rw [hensure]
    rfl
  have hk := d.step.supervisor.keeps_connectStation r.credentials
  have hsound : refused.Sound := by
    refine Supervisor.Sound.keeps ?_ hk
    rw [hsupervisor]
    exact h.sound.drain
  have hevents : refused.hub.inbox.events = [] := by
    have hinbox := Supervisor.inbox_connectStation r.credentials d.step.supervisor
    rw [HostRadio.events_join_of_invalid hvalid, List.map_nil, Inbox.push_nil] at hinbox
    rw [hinbox, hsupervisor]
    exact hquiet
  refine ⟨by rw [stage_step, hact], ?_⟩
  rw [Device.step, hact]
  exact hsound.reopened_clearAndRestart hevents

/-- **What two steps make of a submission**: it is joined if its credentials are valid and its
network is listed, and otherwise it is cleared. -/
theorem step_step [Peers κ] (h : d.Submitted r) :
    (r.credentials.isValid = true ∧ d.supervisor.hub.radio.lists r.ssid = true →
      d.step.step.lifecycle.stage = .wifiConnected ∧
        d.step.step.supervisor.hub.connectivity.isConnected = true ∧
        d.step.step.store.loadRecord = .ok (some r)) ∧
    (¬(r.credentials.isValid = true ∧ d.supervisor.hub.radio.lists r.ssid = true) →
      d.step.step.Cleared) := by
  refine ⟨fun ⟨hvalid, hlists⟩ => h.joins hvalid hlists, fun hnot => ?_⟩
  cases hvalid : r.credentials.isValid with
  | false => exact h.clears_invalid hvalid
  | true =>
      have hlists : d.supervisor.hub.radio.lists r.ssid = false := by simpa [hvalid] using hnot
      exact (cleared_step h.stage
        (Supervisor.drain_of_unlisted h.sound h.queued hvalid hlists)).step

end Submitted

/-- **A submission joins its network or reopens the portal.** At any time of any run of a device
over a host's radio, once the store refuses nothing and the port can be had, a submission that
reaches an unclaimed session of a quiet device in access point mode is accepted; two steps later the
device is connected, with the record in the store, if the credentials are valid and the network is
listed, and otherwise nothing of the record is left and the portal waits with a new session. -/
theorem submission_joins_or_reopens [Peers κ] (settings : Settings) (networks : List Network)
    (address : Ipv4) (port : Faults) (store : Store) (peers : κ) (happenings : List Happening)
    (x : Session) (request : Request) (q : ProvisionRequest) :
    let radio : HostRadio := { networks, address }
    let d := (booted settings radio port store peers).run happenings
    d.lifecycle.stage = .apMode → d.store.Reliable → d.supervisor.port = .never →
      d.supervisor.session = some x → x.active = true → x.submitted = false →
      d.supervisor.hub.inbox.events = [] → request.submission? = some q →
      let e := (d.request request).1.step.step
      (d.request request).2 = some (.saved q.credentials) ∧
      ((Credentials.mk q.ssid q.password).isValid = true ∧ (∃ n ∈ networks, n.ssid = q.ssid) →
        e.lifecycle.stage = .wifiConnected ∧
          e.supervisor.hub.connectivity.isConnected = true ∧
          ∃ r, request.Submits r ∧ e.store.loadRecord = .ok (some r)) ∧
      (¬((Credentials.mk q.ssid q.password).isValid = true ∧ ∃ n ∈ networks, n.ssid = q.ssid) →
        e.lifecycle.stage = .apMode ∧
          (∀ k ∈ Key.provisioned :: Key.record, e.store.get? k = none) ∧
          e.supervisor.session = some { active := true }) := by
  intro radio d hstage hstore hport hx hactive hunclaimed hquiet hq e
  have hopen : d.supervisor.hub.inbox.closed = false :=
    run_induct (P := fun e : Device HostRadio κ => e.supervisor.hub.inbox.closed = false)
      (fun e happening h => (e.closed_undergo happening).trans h) rfl happenings
  have hsound : d.supervisor.Sound := ⟨hstore, hopen, hport⟩
  have hlasting : d.supervisor.hub.radio.networks = networks :=
    run_induct (P := fun e : Device HostRadio κ => e.supervisor.hub.radio.networks = networks)
      (fun _ happening h => (HostRadio.lasting_networks networks).undergo h happening) rfl
      happenings
  obtain ⟨hanswer, hsubmitted⟩ :=
    submitted_request hsound hstage hquiet hx hactive hunclaimed hq
  have hradio : (d.request request).1.supervisor.hub.radio.networks = networks :=
    (HostRadio.lasting_networks networks).handle hlasting request
  have hlists : (d.request request).1.supervisor.hub.radio.lists q.ssid = true ↔
      ∃ n ∈ networks, n.ssid = q.ssid := by
    rw [HostRadio.lists_iff, hradio]
  obtain ⟨hjoins, hclears⟩ := hsubmitted.step_step
  refine ⟨hanswer, ?_, ?_⟩
  · rintro ⟨hvalid, hlisted⟩
    obtain ⟨hjoined, hconnected, hrecord⟩ := hjoins ⟨hvalid, hlists.mpr hlisted⟩
    exact ⟨hjoined, hconnected, _, (Request.submits_iff hq).mpr rfl, hrecord⟩
  · intro hnot
    have hcleared : e.Cleared :=
      hclears fun ⟨hvalid, hlisted⟩ => hnot ⟨hvalid, hlists.mp hlisted⟩
    exact ⟨hcleared.stage, hcleared.reopened.erased, hcleared.reopened.session⟩

/-- Both networks are listed. The name of the second has seventeen letters and thirty-three bytes,
so no network accepts it. The port could not be had at first. -/
theorem submission_joins_or_reopens_of_long_name :
    let networks : List Network := [⟨"Home", 0, 1, false⟩, ⟨"ääääääääääääääää!", 0, 1, false⟩]
    let radio : HostRadio := { networks }
    let peers : HostPeers :=
      { surroundings := ⟨.unreachable, []⟩, probeTarget := "",
        directory := ⟨"", .absent, .absent⟩, session := { broker := "" } }
    let body := fun name : String => "\x7b\"ssid\":\"" ++ name ++ "\"," ++
      "\"password\":\"secret123\",\"device_id\":\"dev-1\",\"provisioning_token\":\"tok-1\"\x7d"
    let submission := fun name : String =>
      ({ method := "POST", target := "/provision", headers := [("Authorization", "Bearer bear-1")],
         body := ⟨[Utf8.encode (body name)], none⟩ } : Request)
    let happenings : List Happening := [.step, .step, .step, .step]
    let d := (booted {} radio ⟨[true], false⟩ (.memory {}) peers).run happenings
    let joined := (d.request (submission "Home")).1.step.step
    let cleared := (d.request (submission "ääääääääääääääää!")).1.step.step
    joined.lifecycle.stage = .wifiConnected ∧
      joined.store.loadRecord =
        .ok (some ⟨"Home", "secret123", "dev-1", "tok-1", some "bear-1", true⟩) ∧
      cleared.lifecycle.stage = .apMode ∧ cleared.supervisor.session = some { active := true } := by
  intro networks radio peers body submission happenings
  have hhome : (submission "Home").submission? = some ⟨"Home", "secret123", "dev-1", "tok-1"⟩ := by
    decide +kernel
  have hlong : (submission "ääääääääääääääää!").submission? =
      some ⟨"ääääääääääääääää!", "secret123", "dev-1", "tok-1"⟩ := by decide +kernel
  have htoken : (submission "Home").token? = some "bear-1" := by decide +kernel
  obtain ⟨-, hjoins, -⟩ := submission_joins_or_reopens {} networks .loopback ⟨[true], false⟩
    (.memory {}) peers happenings { active := true } (submission "Home") _
    (by decide +kernel) (by decide +kernel) (by decide +kernel) (by decide +kernel) rfl rfl
    (by decide +kernel) hhome
  obtain ⟨-, -, hclears⟩ := submission_joins_or_reopens {} networks .loopback ⟨[true], false⟩
    (.memory {}) peers happenings { active := true } (submission "ääääääääääääääää!") _
    (by decide +kernel) (by decide +kernel) (by decide +kernel) (by decide +kernel) rfl rfl
    (by decide +kernel) hlong
  obtain ⟨hconnected, -, r, hr, hrecord⟩ := hjoins (by decide +kernel)
  obtain ⟨hopen, -, hnew⟩ := hclears (by decide +kernel)
  rw [Request.submits_iff hhome, htoken] at hr
  subst hr
  exact ⟨hconnected, hrecord, hopen, hnew⟩

end Device

end Onboarding
