import Onboarding.Proofs.Peers.Logged

/-!
# What one action does

An action makes at most one attempt at something: it probes, asks for certificates, opens a session,
or looks at the open one. `Device.Deed` lists what can come of it, each with the calls that are
made, what is counted, the certificates at hand afterwards, and the stage that comes next.
Everything that is said about the history of a device is read off this list.

## Main results

* `Device.keeps_awaitMessaging`, `Device.keeps_openSession`: the calls of a session that is waited
  for.
* `Device.Deed.starts_first`: a deed begins a session with its first call or not at all.
* `Device.deed_act`: every action is one of these deeds.
-/

namespace Onboarding

/-- The stages up to the probe. -/
def Stage.isEarly : Stage → Bool
  | init | checkProvisioned | apMode | connectingWifi | wifiConnected => true
  | checkCertificates | submittingCsr | connectingMessaging | operational | error => false

namespace Contact

/-- Whether a call begins a session. -/
def isStart : Contact → Bool
  | start _ _ => true
  | _ => false

/-- Whether a call ends a session. -/
def isStop : Contact → Bool
  | stop => true
  | _ => false

/-- Looks at a session that is not established. -/
def AreSilent (contacts : List Contact) : Prop :=
  ∀ x ∈ contacts, x = .poll false

/-- Such looks neither begin nor end a session. -/
theorem AreSilent.neutral {contacts : List Contact} (h : AreSilent contacts) :
    ∀ x ∈ contacts, x.isStart = false ∧ x.isStop = false := by
  intro x hx
  rw [h x hx]
  exact ⟨rfl, rfl⟩

/-- The calls of a session that is waited for: its begin, looks in vain, and the last call. -/
theorem AreSilent.mem_session {polls : List Contact} (h : AreSilent polls) {x first last : Contact}
    (hx : x ∈ first :: polls ++ [last]) : x = first ∨ x = .poll false ∨ x = last := by
  rcases List.mem_append.mp hx with hx | hlast
  · rcases List.mem_cons.mp hx with hfirst | hpoll
    · exact .inl hfirst
    · exact .inr (.inl (h x hpoll))
  · exact .inr (.inr (List.mem_singleton.mp hlast))

end Contact

namespace Device

variable {ρ κ : Type}

/-- A device with the stage, the counters and the certificates of another. -/
structure Kept (d e : Device ρ κ) : Prop where
  lifecycle_eq : e.lifecycle = d.lifecycle
  certificates_eq : e.certificates = d.certificates

theorem Kept.trans {d e f : Device ρ κ} (h : d.Kept e) (h' : e.Kept f) : d.Kept f where
  lifecycle_eq := h'.lifecycle_eq.trans h.lifecycle_eq
  certificates_eq := h'.certificates_eq.trans h.certificates_eq

/-- What is counted then is counted from the same counters. -/
theorem Kept.counters_withCounters {d e : Device ρ κ} (h : d.Kept e) (f : Counters → Counters) :
    (e.withCounters f).lifecycle.counters = f d.lifecycle.counters :=
  congrArg (fun l : Lifecycle => f l.counters) h.lifecycle_eq

/-- Where an action may lead that calls nobody. -/
inductive Passes (d : Device ρ κ) : Stage → Prop
  /-- Up to the probe the record and the link decide. -/
  | early {next : Stage} (origin : d.lifecycle.stage.isEarly = true)
      (target : next.isEarly = true) : Passes d next
  /-- The record is gone. -/
  | unset (origin : d.lifecycle.stage ≠ .operational) (alive : d.lifecycle.stage ≠ .error)
      (unset : d.isProvisioned = false) : Passes d .apMode
  /-- The record is not whole. -/
  | broken (origin : d.lifecycle.stage = .submittingCsr) : Passes d .apMode
  /-- There are no certificates in the store. -/
  | unissued (origin : d.lifecycle.stage = .checkCertificates)
      (missing : ∀ c, d.store.loadCertificates ≠ .ok (some c)) : Passes d .submittingCsr
  /-- The record cannot be read. -/
  | unread (origin : d.lifecycle.stage = .submittingCsr) : Passes d .submittingCsr
  /-- There are no certificates at all. -/
  | unequipped (origin : d.lifecycle.stage = .connectingMessaging)
      (missing : d.sessionCertificates = none) : Passes d .checkCertificates
  /-- The device has given up. -/
  | ended (origin : d.lifecycle.stage = .error) : Passes d .error

/-- What can come of an action: the calls, and the stage that comes next. -/
inductive Deed (d e : Device ρ (Logged κ)) : Stage → List Contact → Prop
  /-- Nobody is called. -/
  | pass {next : Stage} (passes : d.Passes next)
      (counters : ∃ asked,
        e.lifecycle.counters = { d.lifecycle.counters with stationRequested := asked })
      (certificates : e.certificates = d.certificates) : Deed d e next []
  /-- The stored certificates are taken. -/
  | equip (c : Certificates) (origin : d.lifecycle.stage = .checkCertificates)
      (set : d.isProvisioned = true) (stored : d.store.loadCertificates = .ok (some c))
      (lifecycle : e.lifecycle = d.lifecycle) (certificates : e.certificates = some c) :
      Deed d e .connectingMessaging []
  /-- The probe reaches the internet. -/
  | reach (origin : d.lifecycle.stage = .wifiConnected) (kept : d.Kept e) :
      Deed d e .checkCertificates [.probe true]
  /-- The probe fails, which is counted. -/
  | miss {next : Stage} (origin : d.lifecycle.stage = .wifiConnected)
      (counters : e.lifecycle.counters = { d.lifecycle.counters with
        probeAttempts := d.lifecycle.counters.probeAttempts + 1 })
      (certificates : e.certificates = d.certificates)
      (target : next = if maxProbeAttempts ≤ d.lifecycle.counters.probeAttempts + 1
        then .apMode else .wifiConnected) : Deed d e next [.probe false]
  /-- Certificates are issued for the stored record, and stored as far as the store takes them. -/
  | issue (r : DeviceRecord) (c : Certificates) (origin : d.lifecycle.stage = .submittingCsr)
      (record : d.store.loadRecord = .ok (some r))
      (saved : e.store = (d.store.saveCertificates c).1) (lifecycle : e.lifecycle = d.lifecycle)
      (certificates : e.certificates = some c) :
      Deed d e .connectingMessaging [.issue r.deviceId r.provisioningToken (.ok c)]
  /-- Certificates are refused. -/
  | refuse (r : DeviceRecord) (why : PeerError) (origin : d.lifecycle.stage = .submittingCsr)
      (record : d.store.loadRecord = .ok (some r)) (kept : d.Kept e) :
      Deed d e .submittingCsr [.issue r.deviceId r.provisioningToken (.error why)]
  /-- A session is established. -/
  | establish (c : Certificates) (polls : List Contact)
      (origin : d.lifecycle.stage = .connectingMessaging) (set : d.isProvisioned = true)
      (equipped : d.sessionCertificates = some c) (silent : Contact.AreSilent polls)
      (kept : d.Kept e) : Deed d e .operational (.start c (.ok ()) :: polls ++ [.poll true])
  /-- A session is not established, and meanwhile the record is gone. -/
  | abandon (c : Certificates) (result : Except PeerError Unit) (polls : List Contact)
      (origin : d.lifecycle.stage = .connectingMessaging) (set : d.isProvisioned = true)
      (equipped : d.sessionCertificates = some c) (silent : Contact.AreSilent polls)
      (kept : d.Kept e) : Deed d e .apMode (.start c result :: polls ++ [.stop])
  /-- A session is not established, which is counted. -/
  | fail {next : Stage} (c : Certificates) (result : Except PeerError Unit) (polls : List Contact)
      (origin : d.lifecycle.stage = .connectingMessaging) (set : d.isProvisioned = true)
      (equipped : d.sessionCertificates = some c) (silent : Contact.AreSilent polls)
      (counters : e.lifecycle.counters = { d.lifecycle.counters with
        messagingAttempts := d.lifecycle.counters.messagingAttempts + 1 })
      (certificates : e.certificates = d.certificates)
      (target : next = if maxMessagingAttempts ≤ d.lifecycle.counters.messagingAttempts + 1
        then .error else .connectingMessaging) :
      Deed d e next (.start c result :: polls ++ [.stop])
  /-- The open session is ended because the record is gone. -/
  | finish (origin : d.lifecycle.stage = .operational) (kept : d.Kept e) : Deed d e .apMode [.stop]
  /-- The open session is lost. -/
  | lose (origin : d.lifecycle.stage = .operational) (kept : d.Kept e) :
      Deed d e .connectingMessaging [.poll false, .stop]
  /-- The open session is found alive, which is counted. -/
  | attend (origin : d.lifecycle.stage = .operational)
      (counters : e.lifecycle.counters = countCheck d.lifecycle.counters)
      (certificates : e.certificates = d.certificates) : Deed d e .operational [.poll true]

/-- **A deed begins a session with its first call or not at all**, and only if the flag was read as
set. -/
theorem Deed.starts_first {d e : Device ρ (Logged κ)} {next : Stage} {contacts : List Contact}
    (h : Deed d e next contacts) :
    (∀ x ∈ contacts, x.isStart = false) ∨
      ∃ x rest, contacts = x :: rest ∧ (∀ y ∈ rest, y.isStart = false) ∧
        d.lifecycle.stage = .connectingMessaging ∧ d.store.isProvisioned = .ok true := by
  cases h with
  | pass | equip | reach | miss | issue | refuse | finish | lose | attend =>
      left
      simp [Contact.isStart]
  | establish c polls origin set _ silent =>
      refine .inr ⟨_, _, rfl, ?_, origin, isProvisioned_iff.mp set⟩
      simpa [or_imp, forall_and, Contact.isStart] using fun x hx => (silent.neutral x hx).1
  | abandon c result polls origin set _ silent | fail c result polls origin set _ silent =>
      refine .inr ⟨_, _, rfl, ?_, origin, isProvisioned_iff.mp set⟩
      simpa [or_imp, forall_and, Contact.isStart] using fun x hx => (silent.neutral x hx).1

/-- What an action did is a deed, of which the calls stand at the end of the log. -/
def Done (d : Device ρ (Logged κ)) (result : Device ρ (Logged κ) × Stage) : Prop :=
  ∃ contacts, result.1.log = d.log ++ contacts ∧ Deed d result.1 result.2 contacts

/-- An action that called nobody and counted nothing. -/
theorem Done.of_passes {d e : Device ρ (Logged κ)} {next : Stage} (passes : d.Passes next)
    (hlog : e.log = d.log) (hkept : d.Kept e) : d.Done (e, next) := by
  refine ⟨[], hlog.trans (List.append_nil _).symm, .pass passes ?_ hkept.certificates_eq⟩
  exact ⟨d.lifecycle.counters.stationRequested, by rw [hkept.lifecycle_eq]⟩

/-- A peer's answer is noted at the end of the log, and nothing but the queue changes beside it. -/
theorem kept_of_answered {α : Type} (note : α → Contact) {d t : Device ρ (Logged κ)}
    {a : PeerAnswer κ α} {result : α} (h : d.answered (a.logged d.log note) = (t, result)) :
    d.Kept t ∧ t.store = d.store ∧ t.log = d.log ++ [note result] := by
  obtain ⟨rfl, rfl⟩ := Prod.mk.inj h
  exact ⟨⟨rfl, rfl⟩, rfl, rfl⟩

variable [Radio ρ]

/-! ### The stages before the probe -/

theorem done_apMode {d : Device ρ (Logged κ)} (hstage : d.lifecycle.stage = .apMode) :
    d.Done d.apMode := by
  have hearly : d.lifecycle.stage.isEarly = true := by rw [hstage]; rfl
  rw [apMode]
  split
  · exact .of_passes (.early hearly rfl) rfl ⟨rfl, rfl⟩
  · exact .of_passes (.early hearly rfl) rfl ⟨rfl, rfl⟩

theorem done_requestStation {d : Device ρ (Logged κ)}
    (hstage : d.lifecycle.stage = .connectingWifi) : d.Done d.requestStation := by
  have hearly : d.lifecycle.stage.isEarly = true := by rw [hstage]; rfl
  rw [requestStation]
  split
  · split
    · exact ⟨[], (List.append_nil _).symm, .pass (.early hearly rfl) ⟨true, rfl⟩ rfl⟩
    · exact .of_passes (.early hearly rfl) rfl ⟨rfl, rfl⟩
    · exact .of_passes (.early hearly rfl) rfl ⟨rfl, rfl⟩
  · exact .of_passes (.early hearly rfl) rfl ⟨rfl, rfl⟩
  · exact .of_passes (.early hearly rfl) rfl ⟨rfl, rfl⟩
  · exact .of_passes (.early hearly rfl) rfl ⟨rfl, rfl⟩

theorem done_connectingWifi {d : Device ρ (Logged κ)}
    (hstage : d.lifecycle.stage = .connectingWifi) : d.Done d.connectingWifi := by
  have hearly : d.lifecycle.stage.isEarly = true := by rw [hstage]; rfl
  rw [connectingWifi]
  split
  · exact .of_passes (.early hearly rfl) rfl ⟨rfl, rfl⟩
  · split
    · exact .of_passes (.early hearly rfl) rfl ⟨rfl, rfl⟩
    · split
      · exact .of_passes (.early hearly rfl) rfl ⟨rfl, rfl⟩
      · exact done_requestStation hstage

variable [Peers κ]

/-! ### The probe and the certificates -/

theorem done_wifiConnected {d : Device ρ (Logged κ)}
    (hstage : d.lifecycle.stage = .wifiConnected) : d.Done d.wifiConnected := by
  rw [wifiConnected]
  split
  · exact .of_passes (.early (by rw [hstage]; rfl) rfl) rfl ⟨rfl, rfl⟩
  · dsimp only
    cases hprobe : d.drain.answered (Peers.probe d.drain.peers) with
    | mk t reached =>
        obtain ⟨hkept, -, hlog⟩ := kept_of_answered Contact.probe hprobe
        cases reached with
        | true => exact ⟨_, hlog, .reach hstage ⟨hkept.lifecycle_eq, hkept.certificates_eq⟩⟩
        | false =>
            have hcount := hkept.counters_withCounters fun c =>
              { c with probeAttempts := c.probeAttempts + 1 }
            dsimp only
            split
            · rename_i hmax
              rw [hcount] at hmax
              exact ⟨_, hlog, .miss hstage hcount hkept.certificates_eq (if_pos hmax).symm⟩
            · rename_i hmax
              rw [hcount] at hmax
              exact ⟨_, hlog, .miss hstage hcount hkept.certificates_eq (if_neg hmax).symm⟩

omit [Radio ρ] [Peers κ] in
theorem done_checkCertificates {d : Device ρ (Logged κ)}
    (hstage : d.lifecycle.stage = .checkCertificates) : d.Done d.checkCertificates := by
  rw [checkCertificates]
  split
  · rename_i hunset
    have hunset' : d.isProvisioned = false := by simpa using hunset
    exact .of_passes (.unset (by simp [hstage]) (by simp [hstage]) hunset') rfl ⟨rfl, rfl⟩
  · rename_i hset
    have hset' : d.isProvisioned = true := by simpa using hset
    split
    · rename_i c hstored
      exact ⟨[], (List.append_nil _).symm, .equip c hstage hset' hstored rfl rfl⟩
    · rename_i hmissing
      exact .of_passes (.unissued hstage hmissing) rfl ⟨rfl, rfl⟩

theorem done_submittingCsr {d : Device ρ (Logged κ)}
    (hstage : d.lifecycle.stage = .submittingCsr) : d.Done d.submittingCsr := by
  rw [submittingCsr]
  split
  · rename_i hunset
    have hunset' : d.isProvisioned = false := by simpa using hunset
    exact .of_passes (.unset (by simp [hstage]) (by simp [hstage]) hunset') rfl ⟨rfl, rfl⟩
  · split
    · rename_i r hr
      cases hissue : d.answered (Peers.issue r.deviceId r.provisioningToken d.peers) with
      | mk t result =>
          obtain ⟨hkept, hstore, hlog⟩ :=
            kept_of_answered (Contact.issue r.deviceId r.provisioningToken) hissue
          cases result with
          | ok c =>
              have hsaved : (t.keepCertificates c).store = (d.store.saveCertificates c).1 :=
                congrArg (fun s : Store => (s.saveCertificates c).1) hstore
              exact ⟨_, hlog, .issue r c hstage hr hsaved hkept.lifecycle_eq rfl⟩
          | error why =>
              exact ⟨_, hlog, .refuse r why hstage hr ⟨hkept.lifecycle_eq, hkept.certificates_eq⟩⟩
    · exact .of_passes (.broken hstage) rfl ⟨rfl, rfl⟩
    · exact .of_passes (.broken hstage) rfl ⟨rfl, rfl⟩
    · exact .of_passes (.unread hstage) rfl ⟨rfl, rfl⟩

/-! ### Sessions -/

/-- Waiting for a session looks at it in vain until the last look, which may find it established. -/
theorem keeps_awaitMessaging (looks : Nat) (d : Device ρ (Logged κ)) :
    d.Kept (awaitMessaging looks d).1 ∧ ∃ polls, Contact.AreSilent polls ∧
      (awaitMessaging looks d).1.log =
        d.log ++ polls ++ if (awaitMessaging looks d).2 then [.poll true] else [] := by
  induction looks generalizing d with
  | zero =>
      rw [awaitMessaging]
      cases hpoll : d.answered (Peers.poll d.peers) with
      | mk t established =>
          obtain ⟨hkept, -, hlog⟩ := kept_of_answered Contact.poll hpoll
          cases established with
          | true => exact ⟨hkept, [], by simp [Contact.AreSilent], by simp [hlog]⟩
          | false => exact ⟨hkept, [.poll false], by simp [Contact.AreSilent], by simp [hlog]⟩
  | succ looks ih =>
      rw [awaitMessaging]
      cases hpoll : d.answered (Peers.poll d.peers) with
      | mk t established =>
          obtain ⟨hkept, -, hlog⟩ := kept_of_answered Contact.poll hpoll
          cases established with
          | true => exact ⟨hkept, [], by simp [Contact.AreSilent], by simp [hlog]⟩
          | false =>
              dsimp only
              split
              · obtain ⟨hrest, polls, hsilent, hlater⟩ := ih t.drain
                have hdrain : t.drain.log = d.log ++ [.poll false] := hlog
                have hkept' : d.Kept t.drain := ⟨hkept.lifecycle_eq, hkept.certificates_eq⟩
                refine ⟨hkept'.trans hrest, .poll false :: polls, ?_, ?_⟩
                · simpa [Contact.AreSilent] using hsilent
                · rw [hlater, hdrain]
                  simp
              · exact ⟨hkept, [.poll false], by simp [Contact.AreSilent], by simp [hlog]⟩

/-- A session begins, and if the begin is accepted it is waited for. -/
theorem keeps_openSession (d : Device ρ (Logged κ)) (c : Certificates) :
    d.Kept (d.openSession c).1 ∧ ∃ result polls, Contact.AreSilent polls ∧
      (d.openSession c).1.log =
        d.log ++ .start c result :: (polls ++ if (d.openSession c).2 then [.poll true] else []) ∧
      ((d.openSession c).2 = true → result = .ok ()) := by
  rw [openSession]
  cases hstart : d.answered (Peers.start c d.peers) with
  | mk t result =>
      obtain ⟨hkept, -, hlog⟩ := kept_of_answered (Contact.start c) hstart
      cases result with
      | ok u =>
          cases u
          obtain ⟨hrest, polls, hsilent, hlater⟩ := keeps_awaitMessaging t.patience t
          dsimp only
          refine ⟨hkept.trans hrest, .ok (), polls, hsilent, ?_, fun _ => rfl⟩
          rw [hlater, hlog, List.append_assoc, List.append_assoc]
          rfl
      | error why =>
          exact ⟨hkept, .error why, [], by simp [Contact.AreSilent], by simp [hlog], by simp⟩

theorem done_connectingMessaging {d : Device ρ (Logged κ)}
    (hstage : d.lifecycle.stage = .connectingMessaging) : d.Done d.connectingMessaging := by
  rw [connectingMessaging]
  split
  · rename_i hunset
    have hunset' : d.isProvisioned = false := by simpa using hunset
    exact .of_passes (.unset (by simp [hstage]) (by simp [hstage]) hunset') rfl ⟨rfl, rfl⟩
  · rename_i hset
    have hset' : d.isProvisioned = true := by simpa using hset
    split
    · rename_i hmissing
      exact .of_passes (.unequipped hstage hmissing) rfl ⟨rfl, rfl⟩
    · rename_i c hequipped
      obtain ⟨hkept, result, polls, hsilent, hlog, hok⟩ := d.keeps_openSession c
      cases hopen : d.openSession c with
      | mk t established =>
          rw [hopen] at hkept hlog hok
          cases established with
          | true =>
              obtain rfl := hok rfl
              exact ⟨_, hlog, .establish c polls hstage hset' hequipped hsilent hkept⟩
          | false =>
              have hstop : t.stopMessaging.log = d.log ++ (.start c result :: polls ++ [.stop]) :=
                (congrArg (· ++ [Contact.stop]) hlog).trans (by simp)
              have hstopped : d.Kept t.stopMessaging := hkept.trans ⟨rfl, rfl⟩
              dsimp only
              rw [messagingFailed]
              dsimp only
              split
              · exact ⟨_, hstop, .abandon c result polls hstage hset' hequipped hsilent hstopped⟩
              · have hcount := hstopped.counters_withCounters fun c =>
                  { c with messagingAttempts := c.messagingAttempts + 1 }
                split
                · rename_i hover
                  rw [hcount] at hover
                  exact ⟨_, hstop, .fail c result polls hstage hset' hequipped hsilent hcount
                    hkept.certificates_eq (if_pos hover).symm⟩
                · rename_i hover
                  rw [hcount] at hover
                  exact ⟨_, hstop, .fail c result polls hstage hset' hequipped hsilent hcount
                    hkept.certificates_eq (if_neg hover).symm⟩

theorem done_operational {d : Device ρ (Logged κ)} (hstage : d.lifecycle.stage = .operational) :
    d.Done d.operational := by
  rw [operational]
  split
  · exact ⟨_, rfl, .finish hstage ⟨rfl, rfl⟩⟩
  · cases hpoll : d.answered (Peers.poll d.peers) with
    | mk t alive =>
        obtain ⟨hkept, -, hlog⟩ := kept_of_answered Contact.poll hpoll
        cases alive with
        | true =>
            have hcounters : countCheck t.lifecycle.counters = countCheck d.lifecycle.counters := by
              rw [hkept.lifecycle_eq]
            exact ⟨_, hlog, .attend hstage hcounters hkept.certificates_eq⟩
        | false =>
            refine ⟨_, ?_, .lose hstage ⟨hkept.lifecycle_eq, hkept.certificates_eq⟩⟩
            exact (congrArg (· ++ [Contact.stop]) hlog).trans (by simp)

/-- **Every action is a deed.** -/
theorem deed_act (d : Device ρ (Logged κ)) : d.Done d.act := by
  rw [act]
  cases hstage : d.lifecycle.stage with
  | init => exact .of_passes (.early (by rw [hstage]; rfl) rfl) rfl ⟨rfl, rfl⟩
  | checkProvisioned =>
      refine .of_passes (.early (by rw [hstage]; rfl) ?_) rfl ⟨rfl, rfl⟩
      split <;> rfl
  | apMode => exact done_apMode hstage
  | connectingWifi => exact done_connectingWifi hstage
  | wifiConnected => exact done_wifiConnected hstage
  | checkCertificates => exact done_checkCertificates hstage
  | submittingCsr => exact done_submittingCsr hstage
  | connectingMessaging => exact done_connectingMessaging hstage
  | operational => exact done_operational hstage
  | error => exact .of_passes (.ended hstage) rfl ⟨rfl, rfl⟩

end Device

end Onboarding
