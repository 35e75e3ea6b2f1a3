import Onboarding.Proofs.Device.Run
import Onboarding.Proofs.Supervisor.Phase

/-!
# Waiting for a station connection

A device that has a record asks for a station connection once, and from then on it waits for the
connection, step by step. Over a host radio it waits in vain in one case only: meanwhile the
credentials were rejected, the portal came up again, and a submission arrived whose credentials no
network accepts. The supervisor cannot join with these, nobody clears them, and the device neither
listens nor joins.

## Main results

* `Device.Tracked.undergo`: whatever happens leads from phase to phase.
* `Device.isStation_iff_isValid`: a device that waits for a connection is joining a network exactly
  if some network accepts the stored credentials.
-/

namespace Onboarding

/-- Entering a stage anew forgets that a connection was asked for. -/
theorem Lifecycle.requested_of_enter {l : Lifecycle} {next : Stage}
    (hstage : (l.enter next).stage = .connectingWifi)
    (h : (l.enter next).counters.stationRequested = true) :
    l.stage = .connectingWifi ∧ l.counters.stationRequested = true := by
  have hnext : next = .connectingWifi := (l.stage_enter next).symm.trans hstage
  rw [enter] at h hstage
  split at h
  · rename_i heq
    exact ⟨heq.symm.trans hnext, h⟩
  · subst hnext
    simp [reset] at h

namespace Device

open Supervisor (Phase Sound)

variable {κ : Type}

/-- A device that asked for a station connection and waits for it. -/
def Waits {ρ : Type} (d : Device ρ κ) : Prop :=
  d.lifecycle.stage = .connectingWifi ∧ d.lifecycle.counters.stationRequested = true

/-- A device in the middle of a step, where no submission waits to be handled. -/
structure Settled (waits : Prop) (d : Device HostRadio κ) : Prop where
  sound : d.supervisor.Sound
  phase : Phase waits d.supervisor
  quiet : d.supervisor.submissions = []

/-- A device between steps. -/
structure Tracked (d : Device HostRadio κ) : Prop where
  sound : d.supervisor.Sound
  phase : Phase d.Waits d.supervisor

/-! ### Within a step -/

/-- Draining the queue settles a device. -/
theorem settled_drain {waits : Prop} {d : Device HostRadio κ} (hs : d.supervisor.Sound)
    (h : Phase waits d.supervisor) : d.drain.Settled waits :=
  ⟨hs.drain, h.drain hs, d.supervisor.submissions_drain⟩

/-- Clearing the record and restarting settles a device. -/
theorem Settled.clearAndRestart {waits waits' : Prop} {d : Device HostRadio κ}
    (h : d.Settled waits) : d.clearAndRestart.Settled waits' :=
  ⟨h.sound.clearAndRestart, h.sound.phase_clearAndRestart h.quiet,
    d.supervisor.keeps_clearAndRestart.submissions_eq.trans h.quiet⟩

/-- A peer's answer that brings link events at most leaves a device settled. -/
theorem Settled.answered {waits : Prop} {d : Device HostRadio κ} (h : d.Settled waits) {α : Type}
    {a : PeerAnswer κ α} (ha : a.events.filterMap Event.credentials? = []) :
    (d.answered a).1.Settled waits := by
  have hk := Supervisor.keeps_push ha d.supervisor
  exact ⟨h.sound.keeps hk, h.phase.of_keeps hk rfl rfl, hk.submissions_eq.trans h.quiet⟩

/-- Opening the portal without a record leaves a device settled. -/
theorem Settled.startProvisioning {waits : Prop} {d : Device HostRadio κ} (h : d.Settled waits)
    (hunset : d.isProvisioned = false) :
    ({ d with supervisor := d.supervisor.startProvisioning.1 } : Device HostRadio κ).Settled
      waits := by
  have hk := d.supervisor.keeps_startProvisioning
  have hflag := isProvisioned_eq_false_iff.mp hunset
  refine ⟨h.sound.keeps hk, ?_, hk.submissions_eq.trans h.quiet⟩
  cases h.phase with
  | station r state session quiet record | claimed x r state session inactive queued record =>
      exact absurd (Store.isProvisioned_of_loadRecord record) hflag
  | idle state session quiet => exact h.sound.phase_startProvisioning session quiet hflag
  | listening x state session active quiet unset =>
      have hlisten : d.supervisor.isListening = true := by
        rw [Supervisor.isListening, session, Option.any_some, active]
      dsimp only
      rw [Supervisor.startProvisioning, if_pos hlisten]
      exact h.phase

/-- Asking for the network of the stored record is refused only if no network accepts its
credentials. -/
theorem Settled.ensureStation {d : Device HostRadio κ} (h : d.Settled False) {r : DeviceRecord}
    (hr : d.store.loadRecord = .ok (some r)) (waits : Prop) :
    ({ d with supervisor := (d.supervisor.ensureStation r.credentials).1 } :
      Device HostRadio κ).Settled waits ∧
    ((d.supervisor.ensureStation r.credentials).2 = .ok () ∨
      (d.supervisor.ensureStation r.credentials).2 = .error (.radio .stationCredentials)) := by
  have hk := d.supervisor.keeps_ensureStation r.credentials
  have hsound := h.sound.keeps hk
  have hquiet := hk.submissions_eq.trans h.quiet
  cases hstate : d.supervisor.state.isStation with
  | true =>
      have hsame : d.supervisor.ensureStation r.credentials = (d.supervisor, .ok ()) := by
        rw [Supervisor.ensureStation, if_pos hstate]
      refine ⟨⟨hsound, ?_, hquiet⟩, .inl (by rw [hsame])⟩
      dsimp only
      rw [hsame]
      exact h.phase.of_isStation hstate
  | false =>
      have hjoin : d.supervisor.ensureStation r.credentials =
          d.supervisor.connectStation r.credentials := by
        rw [Supervisor.ensureStation, hstate, if_neg Bool.false_ne_true]
      obtain ⟨hphase, hresult⟩ := Supervisor.phase_connectStation h.quiet hr
      refine ⟨⟨hsound, ?_, hquiet⟩, ?_⟩
      · dsimp only
        rw [hjoin]
        exact hphase
      · rw [hjoin, hresult]
        split
        · exact .inl rfl
        · exact .inr rfl

/-- Asking for the connection leaves a device settled. -/
theorem Settled.requestStation {d : Device HostRadio κ}
    (h : d.Settled (d.lifecycle.counters.stationRequested = true)) :
    d.requestStation.1.Settled
      (d.requestStation.1.lifecycle.counters.stationRequested = true) := by
  have hnone : d.Settled False := ⟨h.sound, h.phase.mono False.elim, h.quiet⟩
  rw [Device.requestStation]
  split
  · rename_i r hr
    obtain ⟨hjoined, hresult⟩ := hnone.ensureStation hr True
    split
    · rename_i s heq
      rw [heq] at hjoined
      exact settled_drain hjoined.sound (hjoined.phase.mono fun _ => trivial)
    · rename_i s _ heq
      rw [heq] at hjoined
      exact hjoined.clearAndRestart
    · rename_i s e hne heq
      -- a host radio refuses credentials and nothing else
      rw [heq] at hresult
      rcases hresult with hok | herr
      · simp at hok
      · simp only [Except.error.injEq] at herr
        exact absurd herr (hne _)
  · exact h
  · exact h.clearAndRestart
  · exact settled_drain h.sound h.phase

/-- Waiting for the connection, or asking for it, leaves a device settled that waits for nothing
only if the credentials are at fault. -/
theorem Settled.connectingWifi {d : Device HostRadio κ}
    (h : d.Settled (d.lifecycle.counters.stationRequested = true)) :
    d.connectingWifi.1.Settled
      (d.connectingWifi.1.lifecycle.counters.stationRequested = true) := by
  rw [Device.connectingWifi]
  split
  · exact h
  · split
    · exact h
    · split
      · exact settled_drain h.sound h.phase
      · exact h.requestStation

variable [Peers κ]

/-- A move of any stage leaves a device settled. -/
theorem Settled.move [Peers.BringLinks κ] {stage : Stage} {d e : Device HostRadio κ}
    (hmove : Move stage d e) (h : d.Settled False) : e.Settled False := by
  cases hmove with
  | drain => exact settled_drain h.sound h.phase
  | count | equip | stop => exact ⟨h.sound, h.phase, h.quiet⟩
  | listen _ hunset => exact h.startProvisioning hunset
  | join _ r hr => exact (h.ensureStation hr False).1
  | reset => exact h.clearAndRestart
  | probe => exact h.answered (Peers.BringLinks.probe _)
  | issue => exact h.answered (Peers.BringLinks.issue _ _ _)
  | start => exact h.answered (Peers.BringLinks.start _ _)
  | poll => exact h.answered (Peers.BringLinks.poll _)
  | keep _ c =>
      obtain ⟨hreliable, hrecord, hflag⟩ := h.sound.reliable.saveCertificates c
      exact ⟨⟨hreliable, h.sound.heard, h.sound.port⟩,
        h.phase.congr rfl rfl rfl hrecord hflag, h.quiet⟩

/-! ### Between steps -/

/-- A step leads from phase to phase, and settles the device. -/
theorem Tracked.step [Peers.BringLinks κ] {d : Device HostRadio κ} (h : d.Tracked) :
    d.step.Settled d.step.Waits := by
  have hdrain := settled_drain h.sound h.phase
  have hstage := d.drain.stage_act
  -- only a step within the stage that joins a network can leave the device waiting: whoever enters
  -- the stage anew has not asked yet
  by_cases hjoining : d.drain.lifecycle.stage = .connectingWifi
  · have hact : d.drain.act = d.drain.connectingWifi := by rw [act, hjoining]
    have hwaits : d.drain.Settled (d.drain.lifecycle.counters.stationRequested = true) :=
      ⟨hdrain.sound, hdrain.phase.mono fun hasked => ⟨hjoining, hasked⟩, hdrain.quiet⟩
    have hafter := hwaits.connectingWifi
    rw [← hact] at hafter
    refine ⟨hafter.sound, hafter.phase.mono ?_, hafter.quiet⟩
    rintro ⟨hnext, hasked⟩
    exact (Lifecycle.requested_of_enter hnext hasked).2
  · have hnone : d.drain.Settled False :=
      ⟨hdrain.sound, hdrain.phase.mono False.elim, hdrain.quiet⟩
    have hafter : d.drain.act.1.Settled False :=
      moves_induct (fun _ _ hmove hd => hd.move hmove) d.drain.moves_act hnone
    refine ⟨hafter.sound, hafter.phase.mono ?_, hafter.quiet⟩
    rintro ⟨hnext, hasked⟩
    exact hjoining (hstage.symm.trans (Lifecycle.requested_of_enter hnext hasked).1)

/-- **Whatever happens leads from phase to phase.** -/
theorem Tracked.undergo [Peers.BringLinks κ] {d : Device HostRadio κ} (h : d.Tracked)
    (happening : Happening) : (d.undergo happening).Tracked := by
  cases happening with
  | step => exact ⟨h.step.sound, h.step.phase⟩
  | wait =>
      have hdrain := settled_drain h.sound h.phase
      exact ⟨hdrain.sound, hdrain.phase⟩
  | link e =>
      have hquiet : [Event.link e].filterMap Event.credentials? = [] := rfl
      have hk := Supervisor.keeps_push hquiet d.supervisor
      exact ⟨h.sound.keeps hk, h.phase.of_keeps hk rfl rfl⟩
  | request r =>
      exact ⟨h.sound.handle r, h.phase.handle h.sound r⟩
  | scanned reply =>
      have hscan := d.supervisor.finishScan_scansOnly reply
      exact ⟨h.sound.scansOnly hscan, h.phase.scansOnly hscan⟩

omit [Peers κ] in
/-- A device boots idle, and waits for nothing. -/
theorem tracked_booted (settings : Settings) (radio : HostRadio) {store : Store}
    (hstore : store.Reliable) (peers : κ) : (booted settings radio .never store peers).Tracked := by
  refine ⟨⟨hstore, rfl, rfl⟩, .idle rfl rfl rfl ?_⟩
  rintro ⟨hstage, -⟩
  simp [booted] at hstage

/-- **A device that waits for a connection is joining a network exactly if some network accepts the
stored credentials.** -/
theorem isStation_iff_isValid [Peers.BringLinks κ] (settings : Settings) (radio : HostRadio)
    (store : Store) (hstore : store.Reliable) (peers : κ) (happenings : List Happening) :
    let d := ((booted settings radio .never store peers).run happenings).step
    d.lifecycle.stage = .connectingWifi → d.lifecycle.counters.stationRequested = true →
      d.isProvisioned = true →
      ∃ r, d.store.loadRecord = .ok (some r) ∧
        (d.supervisor.state.isStation = true ↔ r.credentials.isValid = true) := by
  intro d hstage hasked hset
  have hrun : ((booted settings radio .never store peers).run happenings).Tracked :=
    run_induct (fun _ happening hd => hd.undergo happening)
      (tracked_booted settings radio hstore peers) happenings
  have hafter := hrun.step
  cases hafter.phase with
  | station r state session quiet record usable =>
      exact ⟨r, record, fun _ => usable, fun _ => state⟩
  | listening x state session active quiet unset => exact absurd (isProvisioned_iff.mp hset) unset
  | claimed x r state session inactive queued =>
      rw [hafter.quiet] at queued
      simp at queued
  | idle state session quiet unusable =>
      obtain ⟨r, hr, hv⟩ := unusable ⟨hstage, hasked⟩
      refine ⟨r, hr, ?_⟩
      change d.supervisor.state = .idle at state
      simp [state, hv, NetworkState.isStation]

/-- The record is of a network that is gone, and the submission that replaces it has a password that
is too short: the device waits for a connection, and the supervisor is idle. -/
theorem isStation_iff_isValid_of_short_password :
    let store := ((Store.memory {}).saveRecord ⟨"Gone", "", "", "", none, true⟩).1
    let radio : HostRadio := { networks := [] }
    let peers : HostPeers :=
      { surroundings := ⟨.unreachable, []⟩, probeTarget := "",
        directory := ⟨"", .absent, .absent⟩, session := { broker := "" } }
    let body := "\x7b\"ssid\":\"Home\",\"password\":\"abc\",\"device_id\":\"\"," ++
      "\"provisioning_token\":\"\"\x7d"
    let submission : Request :=
      { method := "POST", target := "/provision", body := ⟨[Utf8.encode body], none⟩ }
    let happenings := [.step, .step, .step, .request submission]
    let d := ((booted {} radio .never store peers).run happenings).step
    d.supervisor.state = .idle ∧ ∃ r, d.store.loadRecord = .ok (some r) ∧
      (d.supervisor.state.isStation = true ↔ r.credentials.isValid = true) := by
  intro store radio peers body submission happenings d
  have hstage : d.lifecycle.stage = .connectingWifi := by decide +kernel
  have hasked : d.lifecycle.counters.stationRequested = true := by decide +kernel
  have hset : d.isProvisioned = true := by decide +kernel
  refine ⟨by decide +kernel, ?_⟩
  exact isStation_iff_isValid {} radio store rfl peers happenings hstage hasked hset

end Device

end Onboarding
