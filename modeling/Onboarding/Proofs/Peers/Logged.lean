import Onboarding.Proofs.Device.Moves

/-!
# Peers with a log

`Logged κ` are the peers `κ` with a log of every call that they received and what came of it, so
that what happened in the past of a run can be stated. Nothing reads the log: a device with logged
peers makes the very steps that it makes without the log (`Device.forget_step`).

## Main results

* `Device.forget_step`: a log does not change what a device does.
* `Device.log_move`, `Device.log_act`: the log grows at its end, and only the stage that probes adds
  a probe that reaches the internet.
-/

namespace Onboarding

/-- A call to a peer, and what came of it. -/
inductive Contact where
  | probe (reached : Bool)
  | issue (deviceId token : String) (result : Except PeerError Certificates)
  | start (certificates : Certificates) (result : Except PeerError Unit)
  | poll (established : Bool)
  | stop

/-- Whether a call is a probe that reached the internet. -/
def Contact.reaches : Contact → Bool
  | probe reached => reached
  | _ => false

/-- Peers with the log of their calls, oldest first. -/
structure Logged (κ : Type) where
  peers : κ
  log : List Contact := []

/-- A peer's answer with a note of it in the log. -/
def PeerAnswer.logged {κ α : Type} (a : PeerAnswer κ α) (log : List Contact)
    (note : α → Contact) : PeerAnswer (Logged κ) α where
  peers := ⟨a.peers, log ++ [note a.result]⟩
  result := a.result
  events := a.events

instance {κ : Type} [Peers κ] : Peers (Logged κ) where
  probe p := (Peers.probe p.peers).logged p.log .probe
  issue deviceId token p :=
    (Peers.issue deviceId token p.peers).logged p.log (.issue deviceId token)
  start c p := (Peers.start c p.peers).logged p.log (.start c)
  poll p := (Peers.poll p.peers).logged p.log .poll
  stop p := ⟨Peers.stop p.peers, p.log ++ [.stop]⟩

namespace Device

variable {ρ κ : Type}

/-- The log of a device's calls. -/
def log (d : Device ρ (Logged κ)) : List Contact :=
  d.peers.log

/-- The device without the log. -/
def forget (d : Device ρ (Logged κ)) : Device ρ κ where
  supervisor := d.supervisor
  peers := d.peers.peers
  lifecycle := d.lifecycle
  certificates := d.certificates
  patience := d.patience

/-- A result of an action without the log. -/
def forgetting {α : Type} (p : Device ρ (Logged κ) × α) : Device ρ κ × α :=
  (p.1.forget, p.2)

/-! ### The log changes nothing -/

theorem isProvisioned_forget (d : Device ρ (Logged κ)) :
    d.forget.isProvisioned = d.isProvisioned :=
  rfl

theorem forget_checkCertificates (d : Device ρ (Logged κ)) :
    d.forget.checkCertificates = forgetting d.checkCertificates := by
  have hstore : d.forget.store = d.store := rfl
  simp only [checkCertificates, isProvisioned_forget, hstore]
  rcases d.store.loadCertificates with e | (_ | c) <;> rw [apply_ite forgetting] <;> rfl

variable [Radio ρ]

theorem forget_apMode (d : Device ρ (Logged κ)) : d.forget.apMode = forgetting d.apMode := by
  cases h : d.isProvisioned <;> simp only [apMode, isProvisioned_forget, h] <;> rfl

theorem forget_requestStation (d : Device ρ (Logged κ)) :
    d.forget.requestStation = forgetting d.requestStation := by
  have hstore : d.forget.store = d.store := rfl
  have hsupervisor : d.forget.supervisor = d.supervisor := rfl
  rcases h : d.store.loadRecord with (key | what | e) | (_ | r) <;>
    simp only [requestStation, hstore, h]
  case ok.some =>
    rw [hsupervisor]
    rcases d.supervisor.ensureStation r.credentials with ⟨s, ((what | _) | e) | _⟩ <;> rfl
  all_goals rfl

theorem forget_connectingWifi (d : Device ρ (Logged κ)) :
    d.forget.connectingWifi = forgetting d.connectingWifi := by
  have hsupervisor : d.forget.supervisor = d.supervisor := rfl
  have hlifecycle : d.forget.lifecycle = d.lifecycle := rfl
  simp only [connectingWifi, isProvisioned_forget, hsupervisor, hlifecycle,
    d.forget_requestStation]
  split
  · rfl
  · split
    · rfl
    · split <;> rfl

variable [Peers κ]

theorem forget_wifiConnected (d : Device ρ (Logged κ)) :
    d.forget.wifiConnected = forgetting d.wifiConnected := by
  have hprobe : d.forget.drain.answered (Peers.probe d.forget.drain.peers) =
      forgetting (d.drain.answered (Peers.probe d.drain.peers)) := rfl
  simp only [wifiConnected, isProvisioned_forget, hprobe]
  rcases d.drain.answered (Peers.probe d.drain.peers) with ⟨t, _ | _⟩
  · rw [apply_ite forgetting, apply_ite forgetting]
    rfl
  · rw [apply_ite forgetting]
    rfl

theorem forget_submittingCsr (d : Device ρ (Logged κ)) :
    d.forget.submittingCsr = forgetting d.submittingCsr := by
  have hstore : d.forget.store = d.store := rfl
  have hissue : ∀ deviceId token : String,
      d.forget.answered (Peers.issue deviceId token d.forget.peers) =
        forgetting (d.answered (Peers.issue deviceId token d.peers)) := fun _ _ => rfl
  simp only [submittingCsr, isProvisioned_forget, hstore, hissue]
  rcases d.store.loadRecord with (key | what | e) | (_ | r) <;> rw [apply_ite forgetting]
  case ok.some =>
    dsimp only
    rcases d.answered (Peers.issue r.deviceId r.provisioningToken d.peers) with ⟨t, _ | _⟩ <;> rfl
  all_goals rfl

theorem forget_awaitMessaging (looks : Nat) (d : Device ρ (Logged κ)) :
    awaitMessaging looks d.forget = forgetting (awaitMessaging looks d) := by
  induction looks generalizing d with
  | zero =>
      have hpoll : d.forget.answered (Peers.poll d.forget.peers) =
          forgetting (d.answered (Peers.poll d.peers)) := rfl
      rw [awaitMessaging, awaitMessaging, hpoll]
      rcases d.answered (Peers.poll d.peers) with ⟨t, _ | _⟩ <;> rfl
  | succ looks ih =>
      have hpoll : d.forget.answered (Peers.poll d.forget.peers) =
          forgetting (d.answered (Peers.poll d.peers)) := rfl
      rw [awaitMessaging, awaitMessaging, hpoll]
      rcases d.answered (Peers.poll d.peers) with ⟨t, _ | _⟩
      · have hdrain : t.forget.drain = t.drain.forget := rfl
        change (if t.isProvisioned then awaitMessaging looks t.forget.drain
            else (t.forget, false)) =
          forgetting (if t.isProvisioned then awaitMessaging looks t.drain else (t, false))
        rw [apply_ite forgetting, hdrain, ih]
        rfl
      · rfl

theorem forget_openSession (d : Device ρ (Logged κ)) (c : Certificates) :
    d.forget.openSession c = forgetting (d.openSession c) := by
  have hstart : d.forget.answered (Peers.start c d.forget.peers) =
      forgetting (d.answered (Peers.start c d.peers)) := rfl
  rw [openSession, openSession, hstart]
  rcases d.answered (Peers.start c d.peers) with ⟨t, _ | _⟩
  · rfl
  · exact t.forget_awaitMessaging _

theorem forget_messagingFailed (d : Device ρ (Logged κ)) :
    d.forget.messagingFailed = forgetting d.messagingFailed := by
  simp only [messagingFailed]
  rw [apply_ite forgetting, apply_ite forgetting]
  rfl

theorem forget_connectingMessaging (d : Device ρ (Logged κ)) :
    d.forget.connectingMessaging = forgetting d.connectingMessaging := by
  have hcertificates : d.forget.sessionCertificates = d.sessionCertificates := rfl
  simp only [connectingMessaging, isProvisioned_forget, hcertificates]
  rw [apply_ite forgetting]
  rcases d.sessionCertificates with _ | c
  · rfl
  · dsimp only
    rw [forget_openSession]
    rcases d.openSession c with ⟨t, _ | _⟩
    · exact congrArg _ t.forget_messagingFailed
    · rfl

theorem forget_operational (d : Device ρ (Logged κ)) :
    d.forget.operational = forgetting d.operational := by
  have hpoll : d.forget.answered (Peers.poll d.forget.peers) =
      forgetting (d.answered (Peers.poll d.peers)) := rfl
  simp only [operational, isProvisioned_forget, hpoll]
  rw [apply_ite forgetting]
  rcases d.answered (Peers.poll d.peers) with ⟨t, _ | _⟩ <;> rfl

theorem forget_act (d : Device ρ (Logged κ)) : d.forget.act = forgetting d.act := by
  have hlifecycle : d.forget.lifecycle = d.lifecycle := rfl
  simp only [act, hlifecycle]
  cases d.lifecycle.stage with
  | init | checkProvisioned | error => rfl
  | apMode => exact d.forget_apMode
  | connectingWifi => exact d.forget_connectingWifi
  | wifiConnected => exact d.forget_wifiConnected
  | checkCertificates => exact d.forget_checkCertificates
  | submittingCsr => exact d.forget_submittingCsr
  | connectingMessaging => exact d.forget_connectingMessaging
  | operational => exact d.forget_operational

/-- **A log does not change what a device does.** -/
theorem forget_step (d : Device ρ (Logged κ)) : d.forget.step = d.step.forget := by
  have hdrain : d.forget.drain = d.drain.forget := rfl
  rw [step, hdrain, forget_act]
  rfl

/-! ### The log of an action -/

/-- A move adds to the end of the log, and a probe that reaches the internet is added by a move of
the stage that probes only. -/
theorem log_move {stage : Stage} {d e : Device ρ (Logged κ)} (h : Move stage d e) :
    ∃ added, e.log = d.log ++ added ∧
      (stage ≠ .wifiConnected → added.any Contact.reaches = false) := by
  cases h with
  | drain | count | equip | listen | join | reset | keep =>
      exact ⟨[], (List.append_nil _).symm, fun _ => rfl⟩
  | probe => exact ⟨_, rfl, fun hne => absurd rfl hne⟩
  | issue | start | poll | stop => exact ⟨_, rfl, fun _ => rfl⟩

/-- An action adds to the end of the log, and a probe that reaches the internet is added by the
action of the stage that probes only. -/
theorem log_act (d : Device ρ (Logged κ)) :
    ∃ added, d.act.1.log = d.log ++ added ∧
      (d.lifecycle.stage ≠ .wifiConnected → added.any Contact.reaches = false) := by
  refine moves_induct (P := fun e => ∃ added, e.log = d.log ++ added ∧
    (d.lifecycle.stage ≠ .wifiConnected → added.any Contact.reaches = false)) ?_ d.moves_act
    ⟨[], (List.append_nil _).symm, fun _ => rfl⟩
  rintro e f hmove ⟨added, hlog, hquiet⟩
  obtain ⟨more, hmore, hquiet'⟩ := log_move hmove
  refine ⟨added ++ more, ?_, ?_⟩
  · rw [hmore, hlog, List.append_assoc]
  · intro hstage
    rw [List.any_append, hquiet hstage, hquiet' hstage]
    rfl

end Device

end Onboarding
