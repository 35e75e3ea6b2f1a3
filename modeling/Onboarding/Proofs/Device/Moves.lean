import Mathlib.Logic.Relation
import Onboarding.Device
import Onboarding.Proofs.Supervisor.Operations

/-!
# What the stages of a device can do

The action of a stage is made of a few moves: it drains the queue, calls a peer, drives the
supervisor, clears the record, or takes down a count. `Device.Move` lists them with the stages that
make them and with what is known when they are made, and `Device.moves_act` says that nothing else
happens. What every move preserves is then preserved by every action.

## Main results

* `Device.moves_act`: an action is a sequence of moves of its stage.
* `Device.moves_induct`: what the moves of a stage preserve holds after them.
* `Device.store_move`: the store changes by records cleared and certificates saved only.
-/

namespace Onboarding

namespace Device

open Relation (ReflTransGen)

variable {ρ κ : Type}

/-- A device has a record if its flag can be read and is set. -/
theorem isProvisioned_iff {d : Device ρ κ} :
    d.isProvisioned = true ↔ d.store.isProvisioned = .ok true := by
  rw [isProvisioned]
  split <;> rename_i h <;> simp [h]

theorem isProvisioned_eq_false_iff {d : Device ρ κ} :
    d.isProvisioned = false ↔ d.store.isProvisioned ≠ .ok true := by
  rw [← Bool.not_eq_true, isProvisioned_iff]

variable [Radio ρ] [Peers κ]

/-- One thing that a device does in a stage. -/
inductive Move : Stage → Device ρ κ → Device ρ κ → Prop
  /-- The queued events are handled. -/
  | drain {stage : Stage} (d : Device ρ κ) : Move stage d d.drain
  /-- Something is counted. -/
  | count {stage : Stage} (d : Device ρ κ) (f : Counters → Counters) :
      Move stage d (d.withCounters f)
  /-- The stored certificates are taken for the next session. -/
  | equip (d : Device ρ κ) (c : Certificates) :
      Move .checkCertificates d { d with certificates := some c }
  /-- The portal is opened while there is no record. -/
  | listen (d : Device ρ κ) (h : d.isProvisioned = false) :
      Move .apMode d { d with supervisor := d.supervisor.startProvisioning.1 }
  /-- The network of the stored record is joined. -/
  | join (d : Device ρ κ) (r : DeviceRecord) (h : d.store.loadRecord = .ok (some r)) :
      Move .connectingWifi d
        { d with supervisor := (d.supervisor.ensureStation r.credentials).1 }
  /-- The record is cleared and the portal opened again. -/
  | reset {stage : Stage} (d : Device ρ κ)
      (h : stage = .connectingWifi ∨ stage = .wifiConnected ∨ stage = .submittingCsr) :
      Move stage d d.clearAndRestart
  /-- The connection is probed. -/
  | probe (d : Device ρ κ) : Move .wifiConnected d (d.answered (Peers.probe d.peers)).1
  /-- Certificates are asked for with the stored record. -/
  | issue (d : Device ρ κ) (r : DeviceRecord) (h : d.store.loadRecord = .ok (some r)) :
      Move .submittingCsr d
        (d.answered (Peers.issue r.deviceId r.provisioningToken d.peers)).1
  /-- Certificates are stored. -/
  | keep (d : Device ρ κ) (c : Certificates) : Move .submittingCsr d (d.keepCertificates c)
  /-- A session begins. -/
  | start (d : Device ρ κ) (c : Certificates) :
      Move .connectingMessaging d (d.answered (Peers.start c d.peers)).1
  /-- The session is looked at. -/
  | poll {stage : Stage} (d : Device ρ κ)
      (h : stage = .connectingMessaging ∨ stage = .operational) :
      Move stage d (d.answered (Peers.poll d.peers)).1
  /-- The session is ended. -/
  | stop {stage : Stage} (d : Device ρ κ)
      (h : stage = .connectingMessaging ∨ stage = .operational) :
      Move stage d d.stopMessaging

/-! ### The moves of each stage -/

theorem moves_apMode (d : Device ρ κ) : ReflTransGen (Move .apMode) d d.apMode.1 := by
  rw [apMode]
  split
  · exact .refl
  · rename_i h
    exact (ReflTransGen.single (.listen d (by simpa using h))).tail (.drain _)

theorem moves_requestStation (d : Device ρ κ) :
    ReflTransGen (Move .connectingWifi) d d.requestStation.1 := by
  rw [requestStation]
  split
  · rename_i r hr
    have hjoin : ReflTransGen (Move .connectingWifi) d
        { d with supervisor := (d.supervisor.ensureStation r.credentials).1 } :=
      .single (.join d r hr)
    split
    · rename_i s heq
      rw [heq] at hjoin
      exact (hjoin.tail (.count _ _)).tail (.drain _)
    · rename_i s _ heq
      rw [heq] at hjoin
      exact hjoin.tail (.reset _ (.inl rfl))
    · rename_i s _ _ heq
      rw [heq] at hjoin
      exact hjoin.tail (.drain _)
  · exact .refl
  · exact .single (.reset d (.inl rfl))
  · exact .single (.drain d)

theorem moves_connectingWifi (d : Device ρ κ) :
    ReflTransGen (Move .connectingWifi) d d.connectingWifi.1 := by
  rw [connectingWifi]
  split
  · exact .refl
  · split
    · exact .refl
    · split
      · exact .single (.drain d)
      · exact d.moves_requestStation

theorem moves_wifiConnected (d : Device ρ κ) :
    ReflTransGen (Move .wifiConnected) d d.wifiConnected.1 := by
  rw [wifiConnected]
  split
  · exact .refl
  · have hprobe : ReflTransGen (Move .wifiConnected) d
        (d.drain.answered (Peers.probe d.drain.peers)).1 :=
      (ReflTransGen.single (.drain d)).tail (.probe d.drain)
    dsimp only
    split
    · rename_i t heq
      rwa [heq] at hprobe
    · rename_i t heq
      rw [heq] at hprobe
      have hcount := hprobe.tail
        (.count t fun c => { c with probeAttempts := c.probeAttempts + 1 })
      split
      · exact hcount.tail (.reset _ (.inr (.inl rfl)))
      · exact hcount.tail (.drain _)

theorem moves_checkCertificates (d : Device ρ κ) :
    ReflTransGen (Move .checkCertificates) d d.checkCertificates.1 := by
  rw [checkCertificates]
  split
  · exact .refl
  · split
    · exact .single (.equip d _)
    · exact .refl

theorem moves_submittingCsr (d : Device ρ κ) :
    ReflTransGen (Move .submittingCsr) d d.submittingCsr.1 := by
  rw [submittingCsr]
  split
  · exact .refl
  · split
    · rename_i r hr
      have hissue : ReflTransGen (Move .submittingCsr) d
          (d.answered (Peers.issue r.deviceId r.provisioningToken d.peers)).1 :=
        .single (.issue d r hr)
      split
      · rename_i t c heq
        rw [heq] at hissue
        exact hissue.tail (.keep t c)
      · rename_i t e heq
        rw [heq] at hissue
        exact hissue.tail (.drain t)
    · exact .refl
    · exact .single (.reset d (.inr (.inr rfl)))
    · exact .single (.drain d)

/-- Waiting for a session looks at it and handles events in turn. -/
theorem moves_awaitMessaging (looks : Nat) (d : Device ρ κ) :
    ReflTransGen (Move .connectingMessaging) d (awaitMessaging looks d).1 := by
  induction looks generalizing d with
  | zero =>
      have hpoll : ReflTransGen (Move .connectingMessaging) d
          (d.answered (Peers.poll d.peers)).1 := .single (.poll d (.inl rfl))
      rw [awaitMessaging]
      split <;> rename_i t heq <;> rwa [heq] at hpoll
  | succ looks ih =>
      have hpoll : ReflTransGen (Move .connectingMessaging) d
          (d.answered (Peers.poll d.peers)).1 := .single (.poll d (.inl rfl))
      rw [awaitMessaging]
      split
      · rename_i t heq
        rwa [heq] at hpoll
      · rename_i t heq
        rw [heq] at hpoll
        dsimp only
        split
        · exact (hpoll.tail (.drain t)).trans (ih t.drain)
        · exact hpoll

theorem moves_openSession (d : Device ρ κ) (c : Certificates) :
    ReflTransGen (Move .connectingMessaging) d (d.openSession c).1 := by
  have hstart : ReflTransGen (Move .connectingMessaging) d
      (d.answered (Peers.start c d.peers)).1 := .single (.start d c)
  rw [openSession]
  split
  · rename_i t heq
    rw [heq] at hstart
    exact hstart.trans (t.moves_awaitMessaging _)
  · rename_i t e heq
    rwa [heq] at hstart

theorem moves_messagingFailed (d : Device ρ κ) :
    ReflTransGen (Move .connectingMessaging) d d.messagingFailed.1 := by
  have hstop : ReflTransGen (Move .connectingMessaging) d d.stopMessaging :=
    .single (.stop d (.inl rfl))
  rw [messagingFailed]
  dsimp only
  split
  · exact hstop
  · have hcount := hstop.tail
      (.count d.stopMessaging fun c => { c with messagingAttempts := c.messagingAttempts + 1 })
    split
    · exact hcount
    · exact hcount.tail (.drain _)

theorem moves_connectingMessaging (d : Device ρ κ) :
    ReflTransGen (Move .connectingMessaging) d d.connectingMessaging.1 := by
  rw [connectingMessaging]
  split
  · exact .refl
  · split
    · exact .refl
    · rename_i c _
      have hopen := d.moves_openSession c
      split
      · rename_i t heq
        rwa [heq] at hopen
      · rename_i t heq
        rw [heq] at hopen
        exact hopen.trans t.moves_messagingFailed

theorem moves_operational (d : Device ρ κ) :
    ReflTransGen (Move .operational) d d.operational.1 := by
  rw [operational]
  split
  · exact .single (.stop d (.inr rfl))
  · have hpoll : ReflTransGen (Move .operational) d (d.answered (Peers.poll d.peers)).1 :=
      .single (.poll d (.inr rfl))
    split
    · rename_i t heq
      rw [heq] at hpoll
      exact hpoll.tail (.stop t (.inr rfl))
    · rename_i t heq
      rw [heq] at hpoll
      exact (hpoll.tail (.count t countCheck)).tail (.drain _)

/-- **An action is a sequence of moves** of the stage that it belongs to. -/
theorem moves_act (d : Device ρ κ) : ReflTransGen (Move d.lifecycle.stage) d d.act.1 := by
  rw [act]
  cases hstage : d.lifecycle.stage with
  | init | checkProvisioned => exact .refl
  | apMode => exact d.moves_apMode
  | connectingWifi => exact d.moves_connectingWifi
  | wifiConnected => exact d.moves_wifiConnected
  | checkCertificates => exact d.moves_checkCertificates
  | submittingCsr => exact d.moves_submittingCsr
  | connectingMessaging => exact d.moves_connectingMessaging
  | operational => exact d.moves_operational
  | error => exact .single (.drain d)

/-- **Induction along the moves of a stage**: what they preserve holds after them. -/
theorem moves_induct {stage : Stage} {P : Device ρ κ → Prop}
    (hmove : ∀ d e : Device ρ κ, Move stage d e → P d → P e) {d e : Device ρ κ}
    (h : ReflTransGen (Move stage) d e) (hd : P d) : P e := by
  induction h with
  | refl => exact hd
  | tail _ hlast ih => exact hmove _ _ hlast ih

/-- The store changes by records that are cleared and certificates that are saved: what these
preserve of it is preserved by every move. -/
theorem store_move {P : Store → Prop} (hclear : ∀ s : Store, P s → P s.clearRecord.1)
    (hsave : ∀ (s : Store) (c : Certificates), P s → P (s.saveCertificates c).1) {stage : Stage}
    {d e : Device ρ κ} (h : Move stage d e) (hd : P d.store) : P e.store := by
  cases h with
  | drain => exact Supervisor.store_drain_induct hclear hd
  | count | equip | probe | issue | start | poll | stop => exact hd
  | listen =>
      rw [store, d.supervisor.keeps_startProvisioning.store_eq]
      exact hd
  | join _ r =>
      rw [store, (d.supervisor.keeps_ensureStation r.credentials).store_eq]
      exact hd
  | reset =>
      rw [store, clearAndRestart, Supervisor.store_clearAndRestart]
      exact hclear _ hd
  | keep _ c => exact hsave _ c hd

/-- No move leaves the stage. -/
theorem stage_move {stage : Stage} {d e : Device ρ κ} (h : Move stage d e) :
    e.lifecycle.stage = d.lifecycle.stage := by
  cases h <;> rfl

/-- An action does not leave the stage; the step that it belongs to does. -/
theorem stage_act (d : Device ρ κ) : d.act.1.lifecycle.stage = d.lifecycle.stage :=
  moves_induct (P := fun e => e.lifecycle.stage = d.lifecycle.stage)
    (fun _ _ hmove h => (stage_move hmove).trans h) d.moves_act rfl

end Device

end Onboarding
