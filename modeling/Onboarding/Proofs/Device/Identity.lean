import Onboarding.Peers.Scripted
import Onboarding.Proofs.Device.History
import Onboarding.Proofs.Logs
import Onboarding.Proofs.Store.Lasting

/-!
# The identity of a device

A device obtains its certificates from the store or from the issuer, and keeps them at hand from
then on. Sessions are begun with the pair that was obtained last. The issuer is asked for the device
of the stored record, and once a pair is stored it is not asked again: the pair outlives every
record.

## Main results

* `Device.Deed.certificates_eq`: an action takes what it obtains, and keeps what it has otherwise.
* `Device.Deed.isSome_certificates`: a device that is about to begin a session has certificates.
* `Journey.identity_requested_once`: for whom certificates are requested, which of them sessions
  get, and that stored ones are not requested again.
-/

namespace Onboarding

/-- The certificates that a call brings. -/
def Contact.issued? : Contact → Option Certificates
  | issue _ _ (.ok c) => some c
  | _ => none

namespace Stride

/-- The certificates that a step obtains: those that it loads, or those that are issued in it. -/
def obtained? (s : Stride) : Option Certificates :=
  match s.origin with
  | .checkCertificates =>
    match s.store.isProvisioned, s.store.loadCertificates with
    | .ok true, .ok c => c
    | _, _ => none
  | .submittingCsr => s.contacts.findSome? Contact.issued?
  | _ => none

/-- A step in which certificates are issued, and the store takes them. -/
def StoresCertificates (s : Stride) : Prop :=
  ∃ deviceId token c, .issue deviceId token (.ok c) ∈ s.contacts ∧
    (s.store.saveCertificates c).2 = .ok ()

end Stride

namespace Device

variable {ρ κ : Type} {d e : Device ρ (Logged κ)} {next : Stage} {contacts : List Contact}

/-- Nobody obtains certificates who goes on without a call. -/
theorem Passes.obtained?_eq_none (h : d.Passes next) :
    (⟨d.lifecycle.stage, next, d.store, []⟩ : Stride).obtained? = none := by
  cases h with
  | early origin =>
      cases hstage : d.lifecycle.stage <;>
        simp [hstage, Stage.isEarly, Stride.obtained?] at origin ⊢
  | unset _ _ unset =>
      have hflag := isProvisioned_eq_false_iff.mp unset
      rw [Stride.obtained?]
      split
      · split
        · rename_i hset _
          exact absurd hset hflag
        · rfl
      · rfl
      · rfl
  | unissued origin missing =>
      rw [Stride.obtained?]
      simp only [origin]
      split
      · rename_i c _ hstored
        cases c with
        | none => rfl
        | some c => exact absurd hstored (missing c)
      · rfl
  | broken origin | unread origin | unequipped origin | ended origin =>
      simp [Stride.obtained?, origin]

/-- **An action takes what it obtains, and keeps what it has otherwise.** -/
theorem Deed.certificates_eq (h : Deed d e next contacts) :
    e.certificates = (⟨d.lifecycle.stage, next, d.store, contacts⟩ : Stride).obtained?.or
      d.certificates := by
  have hkeep : e.certificates = d.certificates →
      (⟨d.lifecycle.stage, next, d.store, contacts⟩ : Stride).obtained? = none →
      e.certificates = (⟨d.lifecycle.stage, next, d.store, contacts⟩ : Stride).obtained?.or
        d.certificates := by
    intro hsame hnone
    rw [hsame, hnone, Option.none_or]
  cases h with
  | pass passes _ certificates => exact hkeep certificates passes.obtained?_eq_none
  | equip c origin set stored _ certificates =>
      rw [certificates, Stride.obtained?]
      simp [origin, isProvisioned_iff.mp set, stored]
  | issue r c origin _ _ _ certificates =>
      rw [certificates, Stride.obtained?]
      simp [origin, Contact.issued?]
  | refuse _ _ origin _ kept =>
      exact hkeep kept.certificates_eq (by simp [Stride.obtained?, origin, Contact.issued?])
  | reach origin kept | finish origin kept | lose origin kept =>
      exact hkeep kept.certificates_eq (by simp [Stride.obtained?, origin])
  | miss origin _ certificates | attend origin _ certificates =>
      exact hkeep certificates (by simp [Stride.obtained?, origin])
  | establish _ _ origin _ _ _ kept | abandon _ _ _ origin _ _ _ kept =>
      exact hkeep kept.certificates_eq (by simp [Stride.obtained?, origin])
  | fail _ _ _ origin _ _ _ _ certificates =>
      exact hkeep certificates (by simp [Stride.obtained?, origin])

/-- A device that goes on to a session, or has one, has certificates at hand. -/
theorem Deed.isSome_certificates (h : Deed d e next contacts)
    (hd : d.lifecycle.stage = .connectingMessaging ∨ d.lifecycle.stage = .operational →
      d.certificates.isSome = true)
    (hnext : next = .connectingMessaging ∨ next = .operational) :
    e.certificates.isSome = true := by
  cases h with
  | equip _ _ _ _ _ certificates | issue _ _ _ _ _ _ certificates =>
      rw [certificates]
      rfl
  | pass passes =>
      cases passes with
      | early _ target => rcases hnext with rfl | rfl <;> simp [Stage.isEarly] at target
      | unset | broken | unissued | unread | unequipped | ended => simp at hnext
  | reach | refuse | abandon | finish => simp at hnext
  | miss _ _ _ target =>
      rw [target] at hnext
      split at hnext <;> simp at hnext
  | establish _ _ origin _ _ _ kept =>
      rw [kept.certificates_eq]
      exact hd (.inl origin)
  | lose origin kept =>
      rw [kept.certificates_eq]
      exact hd (.inr origin)
  | attend origin _ certificates =>
      rw [certificates]
      exact hd (.inr origin)
  | fail _ _ _ origin _ _ _ _ certificates =>
      rw [certificates]
      exact hd (.inl origin)

/-- Certificates at hand are those of the next session. -/
theorem sessionCertificates_of_isSome (h : d.certificates.isSome = true) :
    d.sessionCertificates = d.certificates := by
  obtain ⟨c, hc⟩ := Option.isSome_iff_exists.mp h
  rw [sessionCertificates, hc]

/-- A session is begun with the certificates at hand. -/
theorem Deed.certificates_of_start (h : Deed d e next contacts)
    (hd : d.lifecycle.stage = .connectingMessaging ∨ d.lifecycle.stage = .operational →
      d.certificates.isSome = true)
    {c : Certificates} {result : Except PeerError Unit} (hmem : .start c result ∈ contacts) :
    d.certificates = some c := by
  cases h with
  | pass | equip | reach | miss | issue | refuse | finish | lose | attend => simp at hmem
  | establish c' polls origin _ equipped silent | abandon c' _ polls origin _ equipped silent
  | fail c' _ polls origin _ equipped silent =>
      rw [sessionCertificates_of_isSome (hd (.inl origin))] at equipped
      rcases silent.mem_session hmem with hstart | hpoll | hlast
      · rw [(Contact.start.inj hstart).1]
        exact equipped
      · simp at hpoll
      · simp at hlast

/-- Certificates are requested for the device of the stored record. -/
theorem Deed.loadRecord_of_issue (h : Deed d e next contacts) {deviceId token : String}
    {result : Except PeerError Certificates} (hmem : .issue deviceId token result ∈ contacts) :
    d.lifecycle.stage = .submittingCsr ∧
      ∃ r, d.store.loadRecord = .ok (some r) ∧ r.deviceId = deviceId ∧
        r.provisioningToken = token := by
  cases h with
  | pass | equip | reach | miss | finish | lose | attend => simp at hmem
  | issue r _ origin record | refuse r _ origin record =>
      obtain ⟨rfl, rfl, -⟩ := Contact.issue.inj (List.mem_singleton.mp hmem)
      exact ⟨origin, r, record, rfl, rfl⟩
  | establish _ _ _ _ _ silent | abandon _ _ _ _ _ _ silent | fail _ _ _ _ _ _ silent =>
      rcases silent.mem_session hmem with hstart | hpoll | hlast
      · simp at hstart
      · simp at hpoll
      · simp at hlast

/-- A device that is about to begin a session does not look for certificates again. -/
theorem Deed.target_ne_checkCertificates (h : Deed d e next contacts)
    (horigin : d.lifecycle.stage = .connectingMessaging) (hd : d.certificates.isSome = true) :
    next ≠ .checkCertificates := by
  cases h with
  | pass passes =>
      cases passes with
      | early origin => simp [horigin, Stage.isEarly] at origin
      | unequipped _ missing =>
          rw [sessionCertificates_of_isSome hd] at missing
          simp [missing] at hd
      | unset | broken | unissued | unread | ended => simp
  | reach origin => simp [horigin] at origin
  | miss _ _ _ target | fail _ _ _ _ _ _ _ _ _ target =>
      rw [target]
      split <;> simp
  | equip | issue | refuse | establish | abandon | finish | lose | attend => simp

/-- While certificates are stored, nobody goes on to request others. -/
theorem Deed.target_ne_submittingCsr (h : Deed d e next contacts)
    (horigin : d.lifecycle.stage ≠ .submittingCsr) (hd : d.store.Certified) :
    next ≠ .submittingCsr := by
  cases h with
  | pass passes =>
      cases passes with
      | early _ target =>
          rintro rfl
          simp [Stage.isEarly] at target
      | unissued _ missing =>
          obtain ⟨c, hstored⟩ := hd.loadCertificates
          exact absurd hstored (missing c)
      | unread origin => exact absurd origin horigin
      | unset | broken | unequipped | ended => simp
  | refuse _ _ origin => exact absurd origin horigin
  | miss _ _ _ target | fail _ _ _ _ _ _ _ _ _ target =>
      rw [target]
      split <;> simp
  | equip | reach | issue | establish | abandon | finish | lose | attend => simp

/-- Certificates that are issued and taken by the store are held by it, and the device goes on to a
session. -/
theorem Deed.certified_of_stores (h : Deed d e next contacts)
    (hs : (⟨d.lifecycle.stage, next, d.store, contacts⟩ : Stride).StoresCertificates) :
    next ≠ .submittingCsr ∧ e.store.Certified := by
  obtain ⟨deviceId, token, c, hmem, htaken⟩ := hs
  obtain ⟨hstage, -⟩ := h.loadRecord_of_issue hmem
  cases h with
  | issue r c' _ _ saved =>
      obtain ⟨-, -, heq⟩ := Contact.issue.inj (List.mem_singleton.mp hmem)
      obtain rfl := Except.ok.inj heq
      rw [saved]
      exact ⟨by simp, Store.certified_saveCertificates htaken⟩
  | refuse => simp at hmem
  | pass | equip => simp at hmem
  | reach origin | miss origin | establish _ _ origin | abandon _ _ _ origin | fail _ _ _ origin
  | finish origin | lose origin | attend origin => simp [hstage] at origin

end Device

namespace Journey

variable {ρ κ : Type}

/-- A journey of which each request and each session has the right identity. -/
structure Identified (j : Journey ρ κ) : Prop where
  /-- The certificates at hand are those that were obtained last. -/
  certificates_eq : j.device.certificates = (j.strides.filterMap Stride.obtained?).getLast?
  isSome_certificates : j.device.lifecycle.stage = .connectingMessaging ∨
    j.device.lifecycle.stage = .operational → j.device.certificates.isSome = true
  /-- Certificates are requested for the stored record. -/
  requests : ∀ s ∈ j.strides, ∀ deviceId token result, .issue deviceId token result ∈ s.contacts →
    ∃ r, s.store.loadRecord = .ok (some r) ∧ r.deviceId = deviceId ∧ r.provisioningToken = token
  /-- Sessions are begun with the certificates that were obtained last. -/
  sessions : Throughout (fun earlier s => ∀ c result, .start c result ∈ s.contacts →
    (earlier.filterMap Stride.obtained?).getLast? = some c) j.strides
  /-- A device that is about to begin a session does not look for certificates again. -/
  onward : ∀ s ∈ j.strides, s.origin = .connectingMessaging → s.target ≠ .checkCertificates

/-- A journey in which certificates that were stored are held, and no others are requested. -/
structure RequestsOnce (j : Journey ρ κ) : Prop where
  held : (∃ s ∈ j.strides, s.StoresCertificates) →
    j.device.lifecycle.stage ≠ .submittingCsr ∧ j.device.store.Certified
  once : Throughout (fun earlier s => (∃ p ∈ earlier, p.StoresCertificates) →
    ∀ deviceId token result, .issue deviceId token result ∉ s.contacts) j.strides

variable [Radio ρ] [Peers κ]

/-- A step keeps the identity. -/
theorem Identified.advance {j : Journey ρ κ} (hj : j.Identified) : j.advance.Identified := by
  have hdeed := j.device.deed_stride
  have hsome : j.device.drain.lifecycle.stage = .connectingMessaging ∨
      j.device.drain.lifecycle.stage = .operational → j.device.drain.certificates.isSome = true :=
    hj.isSome_certificates
  refine ⟨?_, ?_, ?_, ?_, ?_⟩
  · have hstep : j.device.step.certificates = j.device.stride.obtained?.or j.device.certificates :=
      hdeed.certificates_eq
    rw [Journey.advance, hstep, hj.certificates_eq, List.filterMap_append, List.getLast?_append]
    cases h : j.device.stride.obtained? <;> simp [h]
  · exact hdeed.isSome_certificates hsome
  · intro s hs
    rcases List.mem_append.mp hs with hold | hnew
    · exact hj.requests s hold
    · rw [List.mem_singleton.mp hnew]
      intro deviceId token result hmem
      exact (hdeed.loadRecord_of_issue hmem).2
  · refine hj.sessions.concat ?_
    intro c result hmem
    rw [← hj.certificates_eq]
    exact hdeed.certificates_of_start hsome hmem
  · intro s hs
    rcases List.mem_append.mp hs with hold | hnew
    · exact hj.onward s hold
    · rw [List.mem_singleton.mp hnew]
      intro horigin
      exact hdeed.target_ne_checkCertificates horigin (hj.isSome_certificates (.inl horigin))

/-- Whatever happens keeps the identity. -/
theorem Identified.undergo {j : Journey ρ κ} (hj : j.Identified) (i : Incident) :
    (j.undergo i).Identified := by
  rcases j.undergo_cases i with hstep | ⟨hstrides, hrests⟩
  · rw [hstep]
    exact hj.advance
  · refine ⟨?_, ?_, ?_, ?_, ?_⟩
    · rw [hrests.certificates_eq, hstrides]
      exact hj.certificates_eq
    · rw [hrests.certificates_eq, hrests.lifecycle_eq]
      exact hj.isSome_certificates
    · rw [hstrides]
      exact hj.requests
    · rw [hstrides]
      exact hj.sessions
    · rw [hstrides]
      exact hj.onward

omit [Radio ρ] [Peers κ] in
/-- Before the first step there are no certificates at hand. -/
theorem identified_booted (settings : Settings) (radio : ρ) (port : Faults) (store : Store)
    (peers : κ) : (booted settings radio port store peers : Journey ρ κ).Identified where
  certificates_eq := rfl
  isSome_certificates := by simp [booted, Device.booted]
  requests := by simp [booted]
  sessions := .nil
  onward := by simp [booted]

/-- Certificates that are held are held on, while the store is left to the device. -/
theorem certified_undergo {j : Journey ρ κ} {i : Incident} (hi : i.leavesStore = true)
    (h : j.device.store.Certified) : (j.undergo i).device.store.Certified :=
  store_undergo (fun _ hs => hs.clearRecord) (fun _ r hs => hs.saveRecord r)
    (fun _ c hs => hs.saveCertificates c) hi h

/-- A step requests no certificates once some were stored. -/
theorem RequestsOnce.advance {j : Journey ρ κ} (hj : j.RequestsOnce) : j.advance.RequestsOnce := by
  have hdeed := j.device.deed_stride
  have hheld : (∃ s ∈ j.strides, s.StoresCertificates) →
      j.device.drain.lifecycle.stage ≠ .submittingCsr ∧ j.device.drain.store.Certified := by
    intro hstored
    obtain ⟨hstage, hcertified⟩ := hj.held hstored
    have hwait : (j.undergo (.happens .wait)).device.store.Certified :=
      certified_undergo rfl hcertified
    exact ⟨hstage, hwait⟩
  refine ⟨?_, ?_⟩
  · rintro ⟨s, hs, hstores⟩
    rcases List.mem_append.mp hs with hold | hnew
    · obtain ⟨hstage, hcertified⟩ := hheld ⟨s, hold, hstores⟩
      refine ⟨hdeed.target_ne_submittingCsr hstage hcertified, ?_⟩
      exact certified_undergo (i := .happens .step) rfl (hj.held ⟨s, hold, hstores⟩).2
    · rw [List.mem_singleton.mp hnew] at hstores
      exact hdeed.certified_of_stores hstores
  · refine hj.once.concat ?_
    intro hstored deviceId token result hmem
    exact (hheld hstored).1 (hdeed.loadRecord_of_issue hmem).1

/-- What leaves the store to the device keeps certificates from being requested again. -/
theorem RequestsOnce.undergo {j : Journey ρ κ} (hj : j.RequestsOnce) {i : Incident}
    (hi : i.leavesStore = true) : (j.undergo i).RequestsOnce := by
  rcases j.undergo_cases i with hstep | ⟨hstrides, hrests⟩
  · rw [hstep]
    exact hj.advance
  · refine ⟨?_, ?_⟩
    · intro hstored
      rw [hstrides] at hstored
      rw [hrests.lifecycle_eq]
      exact ⟨(hj.held hstored).1, certified_undergo hi (hj.held hstored).2⟩
    · rw [hstrides]
      exact hj.once

/-- **Certificates are requested for the device of the stored record, and once they are stored not
again**; every session is begun with the pair that was obtained last, and a device that is about to
begin one never looks for certificates again. -/
theorem identity_requested_once (settings : Settings) (radio : ρ) (port : Faults) (store : Store)
    (peers : κ) (incidents : List Incident) (hown : ∀ i ∈ incidents, i.leavesStore = true) :
    let j := (booted settings radio port store peers).run incidents
    (∀ s ∈ j.strides, ∀ deviceId token result, .issue deviceId token result ∈ s.contacts →
      ∃ r, s.store.loadRecord = .ok (some r) ∧ r.deviceId = deviceId ∧
        r.provisioningToken = token) ∧
    Throughout (fun earlier s => ∀ c result, .start c result ∈ s.contacts →
      (earlier.filterMap Stride.obtained?).getLast? = some c) j.strides ∧
    (∀ s ∈ j.strides, s.origin = .connectingMessaging → s.target ≠ .checkCertificates) ∧
    Throughout (fun earlier s => (∃ p ∈ earlier, p.StoresCertificates) →
      ∀ deviceId token result, .issue deviceId token result ∉ s.contacts) j.strides := by
  intro j
  have hj : j.Identified := run_induct (fun k i _ hk => hk.undergo i)
    (identified_booted settings radio port store peers)
  have honce : j.RequestsOnce := by
    refine run_induct (fun k i hi hk => hk.undergo (hown i hi)) ⟨?_, .nil⟩
    rintro ⟨s, hs, -⟩
    exact absurd hs List.not_mem_nil
  exact ⟨hj.requests, hj.sessions, hj.onward, honce.once⟩

/-- The network rejects the credentials after certificates were issued, and a client submits the
record again: the second session is begun with the certificates of the first. -/
theorem identity_requested_once_of_rejected :
    let store := ((Store.memory {}).saveRecord ⟨"Home", "", "id", "token", none, true⟩).1
    let radio : HostRadio := { networks := [⟨"Home", 0, 1, false⟩] }
    let peers : ScriptedPeers :=
      { probes := [true, true], certificates := ⟨"device", "authority"⟩,
        messaging := { connectOnStart := true } }
    let body := "\x7b\"ssid\":\"Home\",\"password\":\"\",\"device_id\":\"id\"," ++
      "\"provisioning_token\":\"token\"\x7d"
    let submission : Request :=
      { method := "POST", target := "/provision", body := ⟨[Utf8.encode body], none⟩ }
    let happenings := List.replicate 8 .step ++
      [.link (.stationDisconnected 15), .wait, .step, .request submission] ++ List.replicate 6 .step
    let incidents := happenings.map Incident.happens
    let j := (booted {} radio .never store peers).run incidents
    (∀ i ∈ incidents, i.leavesStore = true) ∧ j.device.log.countP Contact.isStart = 2 ∧
      Throughout (fun earlier s => (∃ p ∈ earlier, p.StoresCertificates) →
        ∀ deviceId token result, .issue deviceId token result ∉ s.contacts) j.strides := by
  intro store radio peers body submission happenings incidents j
  have hown : ∀ i ∈ incidents, i.leavesStore = true := by decide +kernel
  refine ⟨hown, by decide +kernel, ?_⟩
  exact (identity_requested_once {} radio .never store peers incidents hown).2.2.2

end Journey

end Onboarding
