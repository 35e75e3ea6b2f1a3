import Onboarding.Proofs.Device.History
import Onboarding.Proofs.Logs

/-!
# Messaging sessions are paired

A session is begun in one stage, and it is ended there or in another: because it could not be
established, because it was lost, or because the record is gone. A session that stays open outside
`Stage.operational` would be kept by the next begin, so every way out has to end it.

## Main results

* `Device.Deed.pending_iff`: after a deed a session is open exactly in the stage that looks after
  it.
* `Journey.sessions_paired`: no session is begun before the last one was ended, and none is open but
  in the stage that looks after it.
-/

namespace Onboarding

namespace Device

open Contact (isStart isStop)

variable {ρ κ : Type} {d e : Device ρ (Logged κ)} {next : Stage} {contacts : List Contact}

/-- Nobody who calls nobody is in the stage that looks after a session, or goes there. -/
theorem Passes.not_operational (h : d.Passes next) :
    d.lifecycle.stage ≠ .operational ∧ next ≠ .operational := by
  cases h with
  | early origin target =>
      constructor
      · intro hstage
        simp [hstage, Stage.isEarly] at origin
      · rintro rfl
        simp [Stage.isEarly] at target
  | unset origin => exact ⟨origin, by simp⟩
  | broken origin | unissued origin | unread origin | unequipped origin | ended origin =>
      exact ⟨by simp [origin], by simp⟩

/-- A begin leaves a session open, whatever is called after it that does not end it. -/
theorem pending_start {log rest : List Contact} (c : Certificates) (result : Except PeerError Unit)
    (h : ∀ x ∈ rest, x.isStart = false ∧ x.isStop = false) :
    Pending isStart isStop (log ++ .start c result :: rest) := by
  have hstart : Pending isStart isStop (log ++ [.start c result]) := pending_concat.mpr (.inl rfl)
  rw [List.append_cons]
  exact (pending_append_of_neutral h).mpr hstart

/-- An end leaves no session open. -/
theorem not_pending_stop (log contacts : List Contact) :
    ¬Pending isStart isStop (log ++ (contacts ++ [.stop])) := by
  rw [← List.append_assoc, pending_concat]
  simp [isStart, isStop]

/-- **After a deed a session is open exactly in the stage that looks after it**, if it was so
before. -/
theorem Deed.pending_iff (h : Deed d e next contacts) {log : List Contact}
    (hlog : Pending isStart isStop log ↔ d.lifecycle.stage = .operational) :
    Pending isStart isStop (log ++ contacts) ↔ next = .operational := by
  have hneutral : (∀ x ∈ contacts, x.isStart = false ∧ x.isStop = false) →
      (d.lifecycle.stage = .operational ↔ next = .operational) →
      (Pending isStart isStop (log ++ contacts) ↔ next = .operational) :=
    fun hcontacts hstage => (pending_append_of_neutral hcontacts).trans (hlog.trans hstage)
  cases h with
  | pass passes =>
      obtain ⟨horigin, hnext⟩ := passes.not_operational
      exact hneutral (by simp) ⟨fun h => absurd h horigin, fun h => absurd h hnext⟩
  | equip _ origin | reach origin | issue _ _ origin | refuse _ _ origin =>
      exact hneutral (by simp [isStart, isStop]) (by simp [origin])
  | miss origin _ _ target =>
      refine hneutral (by simp [isStart, isStop]) ?_
      rw [target]
      split <;> simp [origin]
  | attend origin => exact hneutral (by simp [isStart, isStop]) (by simp [origin])
  | establish c polls _ _ _ silent =>
      refine iff_of_true (pending_start c (.ok ()) ?_) rfl
      intro x hx
      rcases List.mem_append.mp hx with hpoll | hlast
      · exact silent.neutral x hpoll
      · rw [List.mem_singleton.mp hlast]
        exact ⟨rfl, rfl⟩
  | abandon c result polls =>
      exact iff_of_false (not_pending_stop log (.start c result :: polls)) (by simp)
  | fail c result polls _ _ _ _ _ _ target =>
      refine iff_of_false (not_pending_stop log (.start c result :: polls)) ?_
      rw [target]
      split <;> simp
  | finish => exact iff_of_false (not_pending_stop log []) (by simp)
  | lose => exact iff_of_false (not_pending_stop log [.poll false]) (by simp)

end Device

namespace Journey

open Contact (isStart isStop)

variable {ρ κ : Type}

/-- A journey of which the sessions are paired. -/
structure Paired (j : Journey ρ κ) : Prop where
  /-- No session is begun while another is open. -/
  alternates : Throughout (fun earlier x => isStart x = true → ¬Pending isStart isStop earlier)
    j.device.log
  /-- A session is open exactly in the stage that looks after it. -/
  pending_iff : Pending isStart isStop j.device.log ↔ j.device.lifecycle.stage = .operational
  /-- A session is begun first thing after the flag was read as set. -/
  checked : ∀ s ∈ j.strides, ∀ x ∈ s.contacts, x.isStart = true →
    s.store.isProvisioned = .ok true ∧ s.contacts.head? = some x

variable [Radio ρ] [Peers κ]

/-- A step keeps sessions paired. -/
theorem Paired.advance {j : Journey ρ κ} (hj : j.Paired) : j.advance.Paired := by
  have hdeed := j.device.deed_stride
  refine ⟨?_, ?_, ?_⟩
  · rw [Journey.advance, Device.log_step]
    refine hj.alternates.append ?_
    intro earlier x later heq hstart
    rcases hdeed.starts_first with hnone | ⟨y, rest, hcontacts, hrest, horigin, -⟩
    · have hx : x.isStart = false := hnone x (by simp [heq])
      simp [hx] at hstart
    · -- the one call that may begin a session is the first, and no session was open before it
      cases earlier with
      | nil =>
          rw [List.append_nil, hj.pending_iff]
          intro hstage
          have : Stage.connectingMessaging = .operational := horigin.symm.trans hstage
          simp at this
      | cons z earlier =>
          rw [hcontacts, List.cons_append, List.cons.injEq] at heq
          have hx : x.isStart = false := hrest x (by simp [heq.2])
          simp [hx] at hstart
  · rw [Journey.advance, Device.log_step]
    exact hdeed.pending_iff hj.pending_iff
  · intro s hs
    rcases List.mem_append.mp hs with hold | hnew
    · exact hj.checked s hold
    · rw [List.mem_singleton.mp hnew]
      intro x hx hstart
      rcases hdeed.starts_first with hnone | ⟨y, rest, hcontacts, hrest, -, hset⟩
      · simp [hnone x hx] at hstart
      · rw [hcontacts] at hx ⊢
        rcases List.mem_cons.mp hx with rfl | hlater
        · exact ⟨hset, rfl⟩
        · simp [hrest x hlater] at hstart

/-- Whatever happens keeps sessions paired. -/
theorem Paired.undergo {j : Journey ρ κ} (hj : j.Paired) (i : Incident) : (j.undergo i).Paired := by
  rcases j.undergo_cases i with hstep | ⟨hstrides, hrests⟩
  · rw [hstep]
    exact hj.advance
  · refine ⟨?_, ?_, ?_⟩
    · rw [hrests.log_eq]
      exact hj.alternates
    · rw [hrests.log_eq, hrests.lifecycle_eq]
      exact hj.pending_iff
    · rw [hstrides]
      exact hj.checked

omit [Radio ρ] [Peers κ] in
/-- Before the first step no session was begun. -/
theorem paired_booted (settings : Settings) (radio : ρ) (port : Faults) (store : Store)
    (peers : κ) : (booted settings radio port store peers : Journey ρ κ).Paired where
  alternates := .nil
  pending_iff := iff_of_false not_pending_nil (by simp [booted, Device.booted])
  checked := by simp [booted]

/-- **Messaging sessions are paired**: between two begins there is an end, a session is open between
the steps exactly in the stage that looks after it, and it is begun in a step that has just read the
flag as set. -/
theorem sessions_paired (settings : Settings) (radio : ρ) (port : Faults) (store : Store)
    (peers : κ) (incidents : List Incident) :
    let j := (booted settings radio port store peers).run incidents
    (∀ earlier x between y later, j.device.log = earlier ++ x :: between ++ y :: later →
      x.isStart = true → y.isStart = true → ∃ z ∈ between, z.isStop = true) ∧
    (Pending isStart isStop j.device.log ↔ j.device.lifecycle.stage = .operational) ∧
    ∀ s ∈ j.strides, ∀ x ∈ s.contacts, x.isStart = true →
      s.store.isProvisioned = .ok true ∧ s.contacts.head? = some x := by
  intro j
  have hj : j.Paired := run_induct (fun k i _ hk => hk.undergo i)
    (paired_booted settings radio port store peers)
  refine ⟨?_, hj.pending_iff, hj.checked⟩
  intro earlier x between y later hlog hx hy
  by_contra hnone
  have hopen : Pending isStart isStop (earlier ++ x :: between) := by
    refine ⟨earlier, x, between, rfl, hx, ?_⟩
    intro z hz
    by_contra hstop
    exact hnone ⟨z, hz, by simpa using hstop⟩
  exact hj.alternates (earlier ++ x :: between) y later hlog hy hopen

end Journey

end Onboarding
