import Onboarding.Peers.Scripted
import Onboarding.Proofs.Device.Messaging
import Onboarding.Proofs.Supervisor.Calls
import Onboarding.Proofs.Supervisor.Queue

/-!
# Rejected credentials lead back to the portal

The event that tells that a network refuses the credentials may wait anywhere in the queue, and
what is handled before it may put more events behind it. All the same it is handled in station mode:
nothing but such an event ends a station connection in a drain without submissions. Then the record
is cleared and everything is restarted, and whatever else waits counts for nothing any more.

So a drain has two parts. Up to the first rejection a supervisor is doomed (`Supervisor.Doomed`),
and from then on it is dismissed (`Supervisor.Dismissed`). The stage that the drain belongs to finds
the flag unset, and whichever it is, it cleans up and leads to access point mode.

## Main results

* `Supervisor.restarts_clearAndRestart`: what a restart asks of the radio, and what comes of it.
* `Supervisor.Doomed.handleEvent`, `Supervisor.Dismissed.handleEvent`: one event.
* `Supervisor.dismissed_drain`: a whole drain.
* `Device.act_of_unset`: the stages once the record is gone.
* `Journey.step_of_rejection`: all of this for a step at any time of any journey.
-/

namespace Onboarding

/-- Whether a call asks for the access point. -/
def RadioNote.isAccessPoint : RadioNote → Bool
  | call (.startAccessPoint _ _) => true
  | _ => false

/-- A call that switches the radio off does not. -/
theorem RadioNote.isAccessPoint_of_isStop {x : RadioNote} (h : x.isStop = true) :
    x.isAccessPoint = false := by
  cases x with
  | scan => rfl
  | call c => cases c <;> first | rfl | simp [isStop] at h

/-- Whether an event tells that the network refuses the credentials. -/
def Event.isRejection : Event → Bool
  | link (.stationDisconnected reason) => Disconnect.classify reason = .credentialRejected
  | _ => false

namespace Supervisor

variable {ρ : Type} [Radio ρ] {s t : Supervisor (LoggedRadio ρ)}

/-! ### Restarts -/

omit [Radio ρ] in
/-- How the portal came to be opened again. The access point was asked for once; if the radio
accepted that and the port can be had, the portal accepts requests, and otherwise the supervisor is
idle. -/
def Restarts (s t : Supervisor (LoggedRadio ρ)) : Prop :=
  ∃ before accepted after,
    t.calls = s.calls ++ before ++ .call (.startAccessPoint s.accessPoint accepted) :: after ∧
    (∀ x ∈ before ++ after, x.isAccessPoint = false) ∧
    if accepted = true ∧ s.port.next.1 = false then t.state = .apActive ∧ t.isListening = true
    else t.state = .idle ∧ t.hub.connectivity = .disconnected

/-- Opening the portal from an idle state ends in the same state if it fails. -/
theorem startProvisioning_of_idle (hsession : s.session = none) (hstate : s.state = .idle)
    (hconnectivity : s.hub.connectivity = .disconnected) :
    if (Radio.startAccessPoint s.accessPoint s.hub.radio).result.isOk = true ∧
        s.port.next.1 = false then
      s.startProvisioning.1.state = .apActive ∧ s.startProvisioning.1.isListening = true
    else
      s.startProvisioning.1.state = .idle ∧
        s.startProvisioning.1.hub.connectivity = .disconnected := by
  have hlisten : s.isListening = false := by rw [isListening, hsession]; rfl
  have hstop : s.stopProvisioning = s := by rw [stopProvisioning, hsession]
  cases hresult : (Radio.startAccessPoint s.accessPoint s.hub.radio).result with
  | error e =>
      rw [if_neg (by simp [Except.isOk, Except.toBool]),
        startProvisioning_of_error hlisten hresult, announced, hstop]
      exact ⟨hstate, hconnectivity⟩
  | ok _ =>
      rw [startProvisioning_of_ok hlisten hresult]
      have hport : s.announced.port.next.1 = s.port.next.1 := by rw [port_announced]
      cases hnext : s.port.next.1 with
      | true =>
          rw [if_neg (by simp)]
          exact openSession_of_taken (hport.trans hnext)
      | false =>
          obtain ⟨hactive, hnew⟩ := openSession_of_free
            (s := { s.announced with hub := s.announced.hub.refreshCache.1 }) (hport.trans hnext)
          rw [if_pos ⟨rfl, rfl⟩, isListening, hnew]
          exact ⟨hactive, rfl⟩

/-- **A restart asks for the access point once**, after it switched the radio off. -/
theorem restarts_clearAndRestart (s : Supervisor (LoggedRadio ρ)) :
    s.Restarts s.clearAndRestart := by
  have hsession : s.switchedOff.session = none := s.cleared.session_stopProvisioning
  have hlisten : s.switchedOff.isListening = false := by rw [isListening, hsession]; rfl
  have haccess : s.switchedOff.accessPoint = s.accessPoint := s.cleared.accessPoint_stopProvisioning
  have hport : s.switchedOff.port = s.port := s.cleared.port_stopProvisioning
  have houtcome := startProvisioning_of_idle (s := s.switchedOff) hsession rfl rfl
  obtain ⟨accepted, hoff⟩ := s.calls_switchedOff
  obtain ⟨later, hcalls, hlater⟩ := s.switchedOff.calls_opening hlisten
  rw [hoff, haccess] at hcalls
  rw [haccess, hport] at houtcome
  refine ⟨[.call (.stop accepted)], _, later, hcalls, ?_, houtcome⟩
  intro x hx
  rcases List.mem_append.mp hx with hstop | hx
  · rw [List.mem_singleton.mp hstop]
    rfl
  · rcases hlater x hx with rfl | hstop
    · rfl
    · exact RadioNote.isAccessPoint_of_isStop hstop

/-! ### The two parts of a drain -/

/-- A supervisor that comes from `s` and is still in station mode, with only link events left. -/
structure Underway (s t : Supervisor (LoggedRadio ρ)) : Prop where
  station : t.state.isStation = true
  quiet : t.submissions = []
  store_eq : t.hub.store = s.hub.store
  port_eq : t.port = s.port
  accessPoint_eq : t.accessPoint = s.accessPoint
  /-- The access point was not asked for yet. -/
  calls : ∃ added, t.calls = s.calls ++ added ∧ ∀ x ∈ added, x.isAccessPoint = false

/-- A supervisor underway for which a rejection waits. -/
structure Doomed (s t : Supervisor (LoggedRadio ρ)) : Prop extends s.Underway t where
  rejection : ∃ e ∈ t.hub.inbox.events, e.isRejection = true

/-- A supervisor that comes from `s` by a restart, with only link events left. -/
structure Dismissed (s t : Supervisor (LoggedRadio ρ)) : Prop where
  free : t.state.isStation = false
  quiet : t.submissions = []
  store_eq : t.hub.store = s.hub.store.clearRecord.1
  restarts : s.Restarts t

omit [Radio ρ] in
/-- The oldest event can be taken from the queue. -/
theorem Underway.withEvents (h : s.Underway t) {e : LinkEvent} {rest : List Event}
    (hcons : t.hub.inbox.events = .link e :: rest) : s.Underway (t.withEvents rest) :=
  ⟨h.station, (submissions_withEvents hcons).symm.trans h.quiet, h.store_eq, h.port_eq,
    h.accessPoint_eq, h.calls⟩

omit [Radio ρ] in
/-- If it is no rejection, one goes on waiting. -/
theorem Doomed.withEvents (h : s.Doomed t) {e : LinkEvent} {rest : List Event}
    (hcons : t.hub.inbox.events = .link e :: rest) (he : (Event.link e).isRejection = false) :
    s.Doomed (t.withEvents rest) := by
  refine ⟨h.toUnderway.withEvents hcons, ?_⟩
  obtain ⟨x, hx, hrejection⟩ := h.rejection
  rw [hcons] at hx
  rcases List.mem_cons.mp hx with rfl | hx
  · simp [he] at hrejection
  · exact ⟨x, hx, hrejection⟩

/-- What is restarted on the way is restarted from the beginning. -/
theorem Underway.dismissed (h : s.Underway t) : s.Dismissed t.clearAndRestart where
  free := t.isStation_clearAndRestart
  quiet := t.keeps_clearAndRestart.submissions_eq.trans h.quiet
  store_eq := by rw [t.store_clearAndRestart, h.store_eq]
  restarts := by
    obtain ⟨added, hadded, hquietly⟩ := h.calls
    obtain ⟨before, accepted, after, hcalls, hothers, houtcome⟩ := t.restarts_clearAndRestart
    rw [hadded, h.accessPoint_eq] at hcalls
    rw [h.port_eq] at houtcome
    refine ⟨added ++ before, accepted, after, ?_, ?_, houtcome⟩
    · rw [hcalls, List.append_assoc s.calls]
    · intro x hx
      rw [List.append_assoc] at hx
      exact (List.mem_append.mp hx).elim (hquietly x) (hothers x)

/-- A link that may come back is joined again, and the rejection goes on waiting. -/
theorem Doomed.rejoin (h : s.Doomed t) :
    s.Doomed
      (({ t with state := .stationDisconnected }.withConnectivity .provisioning).call
        Radio.rejoin).1 := by
  let lost := { t with state := .stationDisconnected }.withConnectivity .provisioning
  have hk := lost.keeps_call Radio.rejoin
  obtain ⟨x, hx, hrejection⟩ := h.rejection
  obtain ⟨added, hadded, hquietly⟩ := h.calls
  refine ⟨⟨rfl, hk.submissions_eq.trans h.quiet, h.store_eq, h.port_eq, h.accessPoint_eq, ?_⟩,
    x, Inbox.mem_push hx _, hrejection⟩
  refine ⟨added ++ [.call (.rejoin (Radio.rejoin t.hub.radio).result.isOk)], ?_, ?_⟩
  · rw [← List.append_assoc, ← hadded]
    rfl
  · simpa [or_imp, forall_and, RadioNote.isAccessPoint] using hquietly

/-- **An event before the rejection leaves a supervisor doomed**, and the rejection dismisses it. -/
theorem Doomed.handleEvent (h : s.Doomed t) {e : Event} {rest : List Event}
    (hcons : t.hub.inbox.events = e :: rest) :
    s.Doomed ((t.withEvents rest).handleEvent e) ∨
      s.Dismissed ((t.withEvents rest).handleEvent e) := by
  cases e with
  | submitted c =>
      have hqueue := (submissions_withEvents hcons).symm.trans h.quiet
      simp [Event.credentials?] at hqueue
  | link e =>
      have hstation : (t.withEvents rest).state.isStation = true := h.station
      rw [Supervisor.handleEvent]
      cases e with
      | stationStarted | clientJoined | clientLeft | clientGotIp =>
          exact .inl (h.withEvents hcons rfl)
      | stationConnected | gotIp =>
          have hrest := h.withEvents hcons rfl
          rw [handleLink, if_pos hstation]
          exact .inl ⟨⟨rfl, hrest.quiet, hrest.store_eq, hrest.port_eq, hrest.accessPoint_eq,
            hrest.calls⟩, hrest.rejection⟩
      | stationDisconnected reason =>
          rw [handleLink, if_pos hstation, linkLost]
          cases hreason : Disconnect.classify reason with
          | transient =>
              refine .inl (Doomed.rejoin (h.withEvents hcons ?_))
              simp [Event.isRejection, hreason]
          | credentialRejected => exact .inr (h.toUnderway.withEvents hcons).dismissed

/-- **An event after the restart changes nothing.** -/
theorem Dismissed.handleEvent (h : s.Dismissed t) {e : Event} {rest : List Event}
    (hcons : t.hub.inbox.events = e :: rest) :
    s.Dismissed ((t.withEvents rest).handleEvent e) := by
  have hqueue := (submissions_withEvents hcons).symm.trans h.quiet
  cases e with
  | submitted c => simp [Event.credentials?] at hqueue
  | link e =>
      rw [Supervisor.handleEvent, handleLink_of_not_isStation (s := t.withEvents rest) h.free]
      exact ⟨h.free, hqueue, h.store_eq, h.restarts⟩

/-- **A drain of link events with a rejection among them ends in a restart**, wherever the rejection
stands. -/
theorem dismissed_drain (hstation : s.state.isStation = true) (hquiet : s.submissions = [])
    (hrejection : ∃ e ∈ s.hub.inbox.events, e.isRejection = true) : s.Dismissed s.drain := by
  have hdoomed : s.Doomed s :=
    ⟨⟨hstation, hquiet, rfl, rfl, rfl, [], (List.append_nil _).symm, by simp⟩, hrejection⟩
  have hafter : s.Doomed s.drain ∨ s.Dismissed s.drain := by
    refine drain_induct (P := fun t => s.Doomed t ∨ s.Dismissed t) ?_ (.inl hdoomed)
    rintro t e rest hcons (hdoomed | hdismissed)
    · exact hdoomed.handleEvent hcons
    · exact .inr (hdismissed.handleEvent hcons)
  rcases hafter with hdoomed | hdismissed
  · obtain ⟨e, he, -⟩ := hdoomed.rejection
    simp [s.events_drain] at he
  · exact hdismissed

end Supervisor

/-! ### The step -/

/-- The stages that a device leaves when its record is gone. -/
def Stage.needsRecord : Stage → Bool
  | connectingWifi | wifiConnected | checkCertificates | submittingCsr | connectingMessaging
  | operational => true
  | init | checkProvisioned | apMode | error => false

/-- **Once the record is gone a stage that needs it leads to access point mode**, and leaves the
supervisor alone. -/
theorem Device.act_of_unset {ρ κ : Type} [Radio ρ] [Peers κ] {d : Device ρ κ}
    (hstage : d.lifecycle.stage.needsRecord = true) (hunset : d.isProvisioned = false) :
    d.act.2 = .apMode ∧ d.act.1.supervisor = d.supervisor := by
  have hgone : (!d.isProvisioned) = true := by rw [hunset]; rfl
  rw [act]
  cases horigin : d.lifecycle.stage with
  | init | checkProvisioned | apMode | error => simp [horigin, Stage.needsRecord] at hstage
  | connectingWifi =>
      dsimp only
      rw [connectingWifi, if_pos hgone]
      exact ⟨rfl, rfl⟩
  | wifiConnected =>
      dsimp only
      rw [wifiConnected, if_pos hgone]
      exact ⟨rfl, rfl⟩
  | checkCertificates =>
      dsimp only
      rw [checkCertificates, if_pos hgone]
      exact ⟨rfl, rfl⟩
  | submittingCsr =>
      dsimp only
      rw [submittingCsr, if_pos hgone]
      exact ⟨rfl, rfl⟩
  | connectingMessaging =>
      dsimp only
      rw [connectingMessaging, if_pos hgone]
      exact ⟨rfl, rfl⟩
  | operational =>
      -- the session is ended on the way out
      dsimp only
      rw [operational, if_pos hgone]
      exact ⟨rfl, rfl⟩

namespace Journey

open Contact (isStart isStop)

/-- **Rejected credentials always lead back to the portal.** At any time of any journey, if a device
in a stage that needs its record is in station mode, its queue holds link events only, and one of
them tells that the network refuses the credentials, then the next step leads to access point mode,
if the store lets the record be cleared. The record is gone and nothing else in the store is
changed, no session is open, and the portal accepts requests if the access point comes up and the
port can be had; otherwise the supervisor is idle. -/
theorem step_of_rejection {ρ κ : Type} [Radio ρ] [Peers κ] (settings : Settings) (radio : ρ)
    (port : Faults) (store : Store) (peers : κ) (incidents : List Incident) (reason : UInt16) :
    let d := ((booted settings (⟨radio, []⟩ : LoggedRadio ρ) port store peers).run
      incidents).device
    let e := d.step
    d.lifecycle.stage.needsRecord = true → d.store.clearRecord.2 = .ok () →
      d.supervisor.state.isStation = true → d.supervisor.submissions = [] →
      .link (.stationDisconnected reason) ∈ d.supervisor.hub.inbox.events →
      Disconnect.classify reason = .credentialRejected →
      e.lifecycle.stage = .apMode ∧
        (∀ k, e.store.get? k =
          if k ∈ Key.provisioned :: Key.record then none else d.store.get? k) ∧
        e.store.loadCertificates = d.store.loadCertificates ∧
        ¬Pending isStart isStop e.log ∧ d.supervisor.Restarts e.supervisor := by
  intro d e hstage hcleared hstation hquiet hqueued hreason
  have hdrain := Supervisor.dismissed_drain hstation hquiet
    ⟨_, hqueued, by simp [Event.isRejection, hreason]⟩
  have hclear : d.store.clearRecord = (d.store.clearRecord.1, .ok ()) := Prod.ext rfl hcleared
  have hstore : d.drain.store = d.store.clearRecord.1 := hdrain.store_eq
  have hunset : d.drain.isProvisioned = false := by
    rw [Device.isProvisioned_eq_false_iff, hstore, Store.isProvisioned_clearRecord hclear]
    simp
  obtain ⟨hnext, hsame⟩ := Device.act_of_unset (d := d.drain) hstage hunset
  have hsupervisor : e.supervisor = d.supervisor.drain := hsame
  have hafter : e.store = d.store.clearRecord.1 := by
    rw [Device.store, hsupervisor]
    exact hstore
  have hget : ∀ k, e.store.get? k =
      if k ∈ Key.provisioned :: Key.record then none else d.store.get? k := by
    rw [hafter]
    exact Store.get?_clearRecord hclear
  have htarget : e.lifecycle.stage = .apMode := d.stage_step.trans hnext
  refine ⟨htarget, hget, ?_, ?_, ?_⟩
  · have hother : ∀ k ∈ Key.certificates, k ∉ Key.provisioned :: Key.record := by decide
    exact Store.loadCertificates_congr fun k hk => (hget k).trans (if_neg (hother k hk))
  · have hpaired : ((booted settings (⟨radio, []⟩ : LoggedRadio ρ) port store peers).run
        incidents).Paired :=
      run_induct (fun k i _ hk => hk.undergo i) (paired_booted settings _ port store peers)
    have hpending : Pending isStart isStop e.log ↔ e.lifecycle.stage = .operational :=
      hpaired.advance.pending_iff
    rw [hpending, htarget]
    simp
  · rw [hsupervisor]
    exact hdrain.restarts

/-- A link is lost in an open session, comes back, and is lost for good; the port is taken when the
portal opens. -/
theorem step_of_rejection_of_port_taken :
    let store := ((Store.memory {}).saveRecord ⟨"Home", "", "id", "token", none, true⟩).1
    let radio : HostRadio := { networks := [⟨"Home", 0, 1, false⟩] }
    let peers : ScriptedPeers :=
      { probes := [true], certificates := ⟨"device", "authority"⟩,
        messaging := { connectOnStart := true } }
    let queue : List Event := [.link (.stationDisconnected 8), .link .stationConnected,
      .link (.stationDisconnected 15), .link (.gotIp .loopback)]
    let incidents : List Incident := List.replicate 8 (.happens .step) ++ [.queue queue]
    let d := ((booted {} (⟨radio, []⟩ : LoggedRadio HostRadio) ⟨[true], false⟩ store peers).run
      incidents).device
    let e := d.step
    d.lifecycle.stage = .operational ∧ e.lifecycle.stage = .apMode ∧
      ¬Pending isStart isStop e.log ∧ d.supervisor.Restarts e.supervisor ∧
      e.supervisor.state = .idle ∧ e.store.hasCertificates.toOption = some true := by
  intro store radio peers queue incidents
  obtain ⟨hopen, -, -, hsession, hrestarts⟩ := step_of_rejection {} radio ⟨[true], false⟩ store
    peers incidents 15 (by decide +kernel) (by decide +kernel) (by decide +kernel)
    (by decide +kernel) (by decide +kernel) (by decide)
  exact ⟨by decide +kernel, hopen, hsession, hrestarts, by decide +kernel, by decide +kernel⟩

end Journey

end Onboarding
