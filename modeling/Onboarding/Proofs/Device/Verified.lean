import Onboarding.Peers.Scripted
import Onboarding.Proofs.Device.Run
import Onboarding.Proofs.Peers.Logged
import Onboarding.Proofs.Supervisor.Phase

/-!
# Records and the probe

Behind the probe a device works with a connection that reached the internet. A record that was
accepted before the probe was itself probed. But a record can also be replaced behind the probe: the
network rejects the credentials, the portal comes up, and a submission arrives before the next step
looks at the flag. The device then goes on with a record that was never probed.

A `Chronicle` is a device with the log of its calls, together with the stage in which the stored
record was accepted and the length of the log then.

## Main results

* `Device.staysBehind_act`: the stages behind the probe are left when the record is gone.
* `Chronicle.Consistent.undergo`: what a chronicle knows about the probe is preserved by whatever
  happens.
* `Chronicle.probed_iff`: behind the probe, a stored record was probed exactly if it was not
  accepted there.
-/

namespace Onboarding

/-- The stages that a device reaches after a successful probe. -/
def Stage.isBehindProbe : Stage → Bool
  | checkCertificates | submittingCsr | connectingMessaging | operational => true
  | init | checkProvisioned | apMode | connectingWifi | wifiConnected | error => false

namespace Store

/-- A store that refuses nothing and has no record stays so when records are cleared and
certificates are saved. -/
def Bare (s : Store) : Prop :=
  s.Reliable ∧ s.isProvisioned ≠ .ok true

theorem Bare.clearRecord {s : Store} (h : s.Reliable) : s.clearRecord.1.Bare := by
  obtain ⟨hreliable, hflag⟩ := h.clearRecord
  exact ⟨hreliable, by simp [hflag]⟩

theorem Bare.saveCertificates {s : Store} (h : s.Bare) (c : Certificates) :
    (s.saveCertificates c).1.Bare := by
  obtain ⟨hreliable, -, hflag⟩ := h.1.saveCertificates c
  exact ⟨hreliable, hflag ▸ h.2⟩

end Store

namespace Device

variable {ρ κ : Type}

variable [Radio ρ] [Peers κ]

/-- A store that refuses nothing goes on refusing nothing. -/
theorem reliable_move {stage : Stage} {d e : Device ρ κ} (h : Move stage d e)
    (hd : d.store.Reliable) : e.store.Reliable :=
  store_move (P := Store.Reliable) (fun _ hs => hs.clearRecord.1)
    (fun _ c hs => (hs.saveCertificates c).1) h hd

/-- No move makes up a record. -/
theorem bare_move {stage : Stage} {d e : Device ρ κ} (h : Move stage d e)
    (hd : d.store.Bare) : e.store.Bare :=
  store_move (P := Store.Bare) (fun _ hs => .clearRecord hs.1)
    (fun _ c hs => hs.saveCertificates c) h hd

theorem reliable_act {d : Device ρ κ} (h : d.store.Reliable) : d.act.1.store.Reliable :=
  moves_induct (P := fun e => e.store.Reliable) (fun _ _ hmove hd => reliable_move hmove hd)
    d.moves_act h

/-- A record after some moves was there before them. -/
theorem isProvisioned_of_moves {stage : Stage} {d e : Device ρ κ} (hs : d.store.Reliable)
    (hmoves : Relation.ReflTransGen (Move stage) d e) (h : e.isProvisioned = true) :
    d.isProvisioned = true := by
  cases hd : d.isProvisioned with
  | true => rfl
  | false =>
      have hbare : e.store.Bare :=
        moves_induct (P := fun e => e.store.Bare) (fun _ _ hmove hd => bare_move hmove hd) hmoves
          ⟨hs, isProvisioned_eq_false_iff.mp hd⟩
      exact absurd (isProvisioned_iff.mp h) hbare.2

/-! ### Where an action leads -/

/-- An action that ends behind the probe, or for good, or without a record. -/
def StaysBehind (result : Device ρ κ × Stage) : Prop :=
  result.2.isBehindProbe = true ∨ result.2 = .error ∨ result.1.isProvisioned = false

omit [Radio ρ] [Peers κ] in
theorem staysBehind_checkCertificates (d : Device ρ κ) : StaysBehind d.checkCertificates := by
  rw [checkCertificates]
  split
  · rename_i hunset
    exact .inr (.inr (by simpa using hunset))
  · split <;> exact .inl rfl

/-- Certificates that are refused cost the record. -/
theorem staysBehind_submittingCsr {d : Device ρ κ} (hs : d.store.Reliable) :
    StaysBehind d.submittingCsr := by
  rw [submittingCsr]
  split
  · rename_i hunset
    exact .inr (.inr (by simpa using hunset))
  · split
    · split <;> exact .inl rfl
    · rename_i hnone
      refine .inr (.inr (isProvisioned_eq_false_iff.mpr ?_))
      exact Store.isProvisioned_of_loadRecord_none hnone
    · refine .inr (.inr (isProvisioned_eq_false_iff.mpr ?_))
      rw [store, clearAndRestart, Supervisor.store_clearAndRestart]
      exact (Store.Bare.clearRecord hs).2
    · exact .inl rfl

theorem staysBehind_messagingFailed (d : Device ρ κ) : StaysBehind d.messagingFailed := by
  rw [messagingFailed]
  dsimp only
  split
  · rename_i hunset
    exact .inr (.inr (by simpa using hunset))
  · split
    · exact .inr (.inl rfl)
    · exact .inl rfl

theorem staysBehind_connectingMessaging (d : Device ρ κ) :
    StaysBehind d.connectingMessaging := by
  rw [connectingMessaging]
  split
  · rename_i hunset
    exact .inr (.inr (by simpa using hunset))
  · split
    · exact .inl rfl
    · split
      · exact .inl rfl
      · exact staysBehind_messagingFailed _

theorem staysBehind_operational (d : Device ρ κ) : StaysBehind d.operational := by
  rw [operational]
  split
  · rename_i hunset
    have hnone : d.isProvisioned = false := by simpa using hunset
    exact .inr (.inr hnone)
  · split <;> exact .inl rfl

/-- **The stages behind the probe are left when the record is gone**, or for good. -/
theorem staysBehind_act {d : Device ρ κ} (hs : d.store.Reliable)
    (h : d.lifecycle.stage.isBehindProbe = true) : StaysBehind d.act := by
  rw [act]
  cases hstage : d.lifecycle.stage with
  | init | checkProvisioned | apMode | connectingWifi | wifiConnected | error =>
      simp [hstage, Stage.isBehindProbe] at h
  | checkCertificates => exact d.staysBehind_checkCertificates
  | submittingCsr => exact staysBehind_submittingCsr hs
  | connectingMessaging => exact d.staysBehind_connectingMessaging
  | operational => exact d.staysBehind_operational

omit [Peers κ] in
/-- From the stage that joins a network no way leads past the probe. -/
theorem connectingWifi_not_isBehindProbe (d : Device ρ κ) :
    d.connectingWifi.2.isBehindProbe = false := by
  rw [connectingWifi]
  split
  · rfl
  · split
    · rfl
    · split
      · rfl
      · rw [requestStation]
        split
        · split <;> rfl
        · rfl
        · rfl
        · rfl

/-- The stages behind the probe are entered through it. -/
theorem act_not_isBehindProbe {d : Device ρ κ} (h : d.lifecycle.stage.isBehindProbe = false)
    (hprobe : d.lifecycle.stage ≠ .wifiConnected) : d.act.2.isBehindProbe = false := by
  rw [act]
  cases hstage : d.lifecycle.stage with
  | checkCertificates | submittingCsr | connectingMessaging | operational =>
      simp [hstage, Stage.isBehindProbe] at h
  | wifiConnected => exact absurd hstage hprobe
  | init | error => rfl
  | checkProvisioned =>
      dsimp only
      split <;> rfl
  | apMode =>
      dsimp only
      rw [apMode]
      split <;> rfl
  | connectingWifi => exact d.connectingWifi_not_isBehindProbe

/-- A probe that leads behind itself reached the internet. -/
theorem log_act_of_wifiConnected {d : Device ρ (Logged κ)}
    (hstage : d.lifecycle.stage = .wifiConnected) (h : d.act.2.isBehindProbe = true) :
    ∃ added, d.act.1.log = d.log ++ added ∧ added.any Contact.reaches = true := by
  rw [act, hstage] at h ⊢
  dsimp only at h ⊢
  rw [wifiConnected] at h ⊢
  split at h
  · simp [Stage.isBehindProbe] at h
  · rename_i hset
    rw [if_neg hset]
    dsimp only at h ⊢
    cases hprobe : d.drain.answered (Peers.probe d.drain.peers) with
    | mk t reached =>
        rw [hprobe] at h
        obtain ⟨rfl, hreached⟩ := Prod.mk.inj hprobe
        cases reached with
        | false =>
            dsimp only at h
            split at h <;> simp [Stage.isBehindProbe] at h
        | true => exact ⟨[.probe true], congrArg (d.log ++ [Contact.probe ·]) hreached, rfl⟩

/-- A log does not change what a device undergoes. -/
theorem forget_undergo (d : Device ρ (Logged κ)) (happening : Happening) :
    d.forget.undergo happening = (d.undergo happening).forget := by
  cases happening with
  | step => exact d.forget_step
  | wait | link | request | scanned => rfl

/-- A log does not change a run. -/
theorem forget_run (d : Device ρ (Logged κ)) (happenings : List Happening) :
    d.forget.run happenings = (d.run happenings).forget := by
  induction happenings generalizing d with
  | nil => rfl
  | cons happening rest ih =>
      have htail : (d.forget.undergo happening).run rest =
          ((d.undergo happening).run rest).forget := by
        rw [forget_undergo, ih]
      exact htail

end Device

/-- A device with the log of its calls, and what is known about the stored record. -/
structure Chronicle (ρ κ : Type) where
  device : Device ρ (Logged κ)
  /-- The stage in which the record was accepted, unless it was found at boot. -/
  savedIn : Option Stage := none
  /-- The length of the log when the record was accepted. -/
  savedAt : Nat := 0

namespace Chronicle

variable {ρ κ : Type}

/-- Whether a probe has reached the internet since the stored record was accepted. -/
def probed (c : Chronicle ρ κ) : Bool :=
  (c.device.log.drop c.savedAt).any Contact.reaches

/-- Whether the stored record was accepted behind the probe. -/
def savedBehindProbe (c : Chronicle ρ κ) : Bool :=
  c.savedIn.any Stage.isBehindProbe

/-- A device before its first step, with an empty log. -/
def booted (settings : Settings) (radio : ρ) (port : Faults) (store : Store) (peers : κ) :
    Chronicle ρ κ where
  device := .booted settings radio port store { peers }

/-! ### What is known -/

/-- What a chronicle knows about the stored record and the probe. -/
structure Consistent (c : Chronicle ρ κ) : Prop where
  reliable : c.device.store.Reliable
  savedAt_le : c.savedAt ≤ c.device.log.length
  /-- Behind the probe, the record was probed unless it was accepted there. -/
  behind : c.device.isProvisioned = true → c.device.lifecycle.stage.isBehindProbe = true →
    (c.probed = true ↔ c.savedBehindProbe = false)
  /-- Before the probe, there is no record that was accepted behind it. -/
  before : c.device.isProvisioned = true → c.device.lifecycle.stage.isBehindProbe = false →
    c.device.lifecycle.stage ≠ .error → c.savedBehindProbe = false

/-- What adds no record and neither leaves the stage nor calls a peer changes nothing that is
known. -/
theorem Consistent.congr {c : Chronicle ρ κ} (hc : c.Consistent) {device : Device ρ (Logged κ)}
    (hs : device.store.Reliable) (hlog : device.log = c.device.log)
    (hstage : device.lifecycle.stage = c.device.lifecycle.stage)
    (hset : device.isProvisioned = true → c.device.isProvisioned = true) :
    ({ c with device } : Chronicle ρ κ).Consistent where
  reliable := hs
  savedAt_le := hlog ▸ hc.savedAt_le
  behind := by
    intro h hbehind
    have hprobed : ({ c with device } : Chronicle ρ κ).probed = c.probed := by
      rw [probed, probed, hlog]
    rw [hprobed]
    exact hc.behind (hset h) (hstage ▸ hbehind)
  before := by
    intro h hbefore herror
    exact hc.before (hset h) (hstage ▸ hbefore) (hstage ▸ herror)

/-- A record found at boot was accepted before any probe. -/
theorem consistent_booted (settings : Settings) (radio : ρ) (port : Faults) {store : Store}
    (hstore : store.Reliable) (peers : κ) :
    (booted settings radio port store peers : Chronicle ρ κ).Consistent := by
  refine ⟨hstore, Nat.zero_le _, ?_, ?_⟩
  · intro _ hbehind
    simp [booted, Device.booted, Stage.isBehindProbe] at hbehind
  · intro _ _ _
    rfl

/-! ### Runs -/

variable [Radio ρ] [Peers κ]

/-- The chronicle after something happened: an accepted submission is a new record. -/
def undergo (c : Chronicle ρ κ) : Happening → Chronicle ρ κ
  | .request r =>
    let (device, answer) := c.device.request r
    if Response.isAcceptance answer then
      { device, savedIn := some c.device.lifecycle.stage, savedAt := c.device.log.length }
    else { c with device }
  | happening => { c with device := c.device.undergo happening }

/-- The chronicle after a run. -/
def run (c : Chronicle ρ κ) (happenings : List Happening) : Chronicle ρ κ :=
  happenings.foldl undergo c

/-- A chronicle is about what its device undergoes. -/
theorem device_undergo (c : Chronicle ρ κ) (happening : Happening) :
    (c.undergo happening).device = c.device.undergo happening := by
  cases happening with
  | step | wait | link | scanned => rfl
  | request r =>
      rw [undergo]
      dsimp only
      split <;> rfl

/-- A chronicle is about the run of its device. -/
theorem device_run (c : Chronicle ρ κ) (happenings : List Happening) :
    (c.run happenings).device = c.device.run happenings := by
  induction happenings generalizing c with
  | nil => rfl
  | cons happening rest ih =>
      have htail : ((c.undergo happening).run rest).device =
          (c.device.undergo happening).run rest := by
        rw [ih, device_undergo]
      exact htail

/-- The action of a stage, and the stage after it, keep a chronicle consistent. -/
theorem Consistent.act {c : Chronicle ρ κ} (hc : c.Consistent) {device : Device ρ (Logged κ)}
    (hlog : device.log = c.device.act.1.log) (hstore : device.store = c.device.act.1.store)
    (hnext : device.lifecycle.stage = c.device.act.2) :
    ({ c with device } : Chronicle ρ κ).Consistent := by
  obtain ⟨added, hadded, hquiet⟩ := c.device.log_act
  have hprobed : ∀ more, c.device.act.1.log = c.device.log ++ more →
      ({ c with device } : Chronicle ρ κ).probed = (c.probed || more.any Contact.reaches) := by
    intro more hmore
    rw [probed, hlog, hmore, List.drop_append_of_le_length hc.savedAt_le, List.any_append]
    rfl
  have hset : device.isProvisioned = true → c.device.isProvisioned = true := by
    intro h
    have hact : c.device.act.1.isProvisioned = true := by
      rw [Device.isProvisioned_iff] at h ⊢
      rwa [← hstore]
    exact Device.isProvisioned_of_moves hc.reliable c.device.moves_act hact
  have hreliable : device.store.Reliable := hstore ▸ Device.reliable_act hc.reliable
  have hlength : c.savedAt ≤ device.log.length := by
    have := hc.savedAt_le
    rw [hlog, hadded, List.length_append]
    omega
  cases hbehind : c.device.lifecycle.stage.isBehindProbe with
  | true =>
      -- no probe is made here, so what is known about the record stays
      have hprobe : c.device.lifecycle.stage ≠ .wifiConnected := by
        intro heq
        simp [heq, Stage.isBehindProbe] at hbehind
      have hsame := hprobed added hadded
      rw [hquiet hprobe, Bool.or_false] at hsame
      refine ⟨hreliable, hlength, ?_, ?_⟩
      · intro h _
        rw [hsame]
        exact hc.behind (hset h) hbehind
      · intro h hnot herror
        rcases Device.staysBehind_act hc.reliable hbehind with hstay | hgone | hnone
        · simp [hnext, hstay] at hnot
        · exact absurd (hnext.trans hgone) herror
        · rw [Device.isProvisioned_eq_false_iff] at hnone
          rw [Device.isProvisioned_iff] at h
          exact absurd (hstore ▸ h) hnone
  | false =>
      -- the only way behind the probe is a probe, which comes after the record was accepted
      refine ⟨hreliable, hlength, ?_, ?_⟩
      · intro h hthrough
        rw [hnext] at hthrough
        have hprobe : c.device.lifecycle.stage = .wifiConnected := by
          by_cases heq : c.device.lifecycle.stage = .wifiConnected
          · exact heq
          · simp [Device.act_not_isBehindProbe hbehind heq] at hthrough
        obtain ⟨more, hmore, hreached⟩ := Device.log_act_of_wifiConnected hprobe hthrough
        rw [hprobed more hmore, hreached, Bool.or_true]
        have herror : c.device.lifecycle.stage ≠ .error := by simp [hprobe]
        exact ⟨fun _ => hc.before (hset h) hbehind herror, fun _ => rfl⟩
      · intro h _ herror
        refine hc.before (hset h) hbehind ?_
        intro hstage
        refine herror (hnext.trans ?_)
        rw [Device.act, hstage]

/-- **What a chronicle knows about the probe is preserved by whatever happens.** -/
theorem Consistent.undergo {c : Chronicle ρ κ} (hc : c.Consistent) (happening : Happening) :
    (c.undergo happening).Consistent := by
  have hdrained : ({ c with device := c.device.drain } : Chronicle ρ κ).Consistent := by
    have hmove : Device.Move .init c.device c.device.drain := .drain c.device
    exact hc.congr (Device.reliable_move hmove hc.reliable) rfl rfl
      (Device.isProvisioned_of_moves hc.reliable (.single hmove))
  cases happening with
  | wait => exact hdrained
  | step => exact hdrained.act rfl rfl c.device.stage_step
  | link e => exact hc.congr hc.reliable rfl rfl id
  | scanned reply =>
      obtain ⟨radio, cache, scanning, hscan⟩ := c.device.supervisor.finishScan_scansOnly reply
      change ({ c with device := c.device.undergo (.scanned reply) } : Chronicle ρ κ).Consistent
      rw [Device.undergo, hscan]
      exact hc.congr hc.reliable rfl rfl id
  | request r =>
      rcases Supervisor.handle_cases hc.reliable r with ⟨hscan, hnot⟩ | hsaved
      · have hundergo : c.undergo (.request r) = { c with device := (c.device.request r).1 } := by
          simp only [Chronicle.undergo, Device.request, hnot, Bool.false_eq_true, if_false]
        obtain ⟨radio, cache, scanning, heq⟩ := hscan
        rw [hundergo, Device.request, heq]
        exact hc.congr hc.reliable rfl rfl id
      · obtain ⟨q, x, store, -, -, -, hsave, heq, haccept⟩ := hsaved
        have hundergo : c.undergo (.request r) =
            { device := (c.device.request r).1
              savedIn := some c.device.lifecycle.stage
              savedAt := c.device.log.length } := by
          simp only [Chronicle.undergo, Device.request, haccept, if_true]
        rw [hundergo, Device.request, heq]
        refine ⟨hc.reliable.of_perform hsave, Nat.le_refl _, ?_, ?_⟩
        · intro _ hbehind
          have hprobed : c.device.log.drop c.device.log.length = [] := List.drop_length
          simp only [probed, savedBehindProbe, Device.log, Option.any_some] at hprobed ⊢
          rw [hprobed]
          simp [show c.device.lifecycle.stage.isBehindProbe = true from hbehind]
        · intro _ hbefore _
          exact hbefore

/-- A run keeps a chronicle consistent. -/
theorem Consistent.run {c : Chronicle ρ κ} (hc : c.Consistent) (happenings : List Happening) :
    (c.run happenings).Consistent := by
  induction happenings generalizing c with
  | nil => exact hc
  | cons happening rest ih => exact ih (hc.undergo happening)

/-- **Behind the probe, a stored record was probed exactly if it was not accepted there.** -/
theorem probed_iff (settings : Settings) (radio : ρ) (port : Faults) (store : Store)
    (hstore : store.Reliable) (peers : κ) (happenings : List Happening) :
    let c := ((booted settings radio port store peers).run happenings).undergo .step
    c.device.lifecycle.stage.isBehindProbe = true → c.device.isProvisioned = true →
      (c.probed = true ↔ c.savedBehindProbe = false) := by
  intro c hbehind hset
  have hboot : (booted settings radio port store peers).Consistent :=
    consistent_booted settings radio port hstore peers
  exact ((hboot.run happenings).undergo .step).behind hset hbehind

/-- Right behind the probe the network rejects the credentials, and a client submits the record
again before the next step: the device goes on with a record that was not probed. -/
theorem probed_iff_of_rejected :
    let store := ((Store.memory {}).saveRecord ⟨"Home", "", "", "", none, true⟩).1
    let radio : HostRadio := { networks := [⟨"Home", 0, 1, false⟩] }
    let peers : ScriptedPeers := { probes := [true], certificates := ⟨"", ""⟩ }
    let body := "\x7b\"ssid\":\"Home\",\"password\":\"\",\"device_id\":\"\"," ++
      "\"provisioning_token\":\"\"\x7d"
    let submission : Request :=
      { method := "POST", target := "/provision", body := ⟨[Utf8.encode body], none⟩ }
    let happenings := List.replicate 5 .step ++
      [.link (.stationDisconnected 15), .wait, .request submission]
    let c := ((booted {} radio .never store peers).run happenings).undergo .step
    c.device.lifecycle.stage = .submittingCsr ∧ c.savedBehindProbe = true ∧
      (c.probed = true ↔ c.savedBehindProbe = false) := by
  intro store radio peers body submission happenings c
  have hbehind : c.device.lifecycle.stage.isBehindProbe = true := by decide +kernel
  have hset : c.device.isProvisioned = true := by decide +kernel
  refine ⟨by decide +kernel, by decide +kernel, ?_⟩
  exact probed_iff {} radio .never store rfl peers happenings hbehind hset

end Chronicle

end Onboarding
