import Mathlib.Data.List.DropRight
import Onboarding.Proofs.Device.History
import Onboarding.Proofs.Logs

/-!
# What the counters count

The counters of a device are raised inside the actions and reset when a stage is entered from
another one. What they hold between the steps is what the history says: the failed probes since the
network or the access point was entered, the failed sessions since a session was established or the
access point was entered, and the looks at the open session, of which every thirtieth starts anew.

Each counter is followed through a step in two halves: what the action adds to it (`Device.Deed`),
and whether the stage entered after it resets it (`Lifecycle.enter`). The history grows in the same
two ways (`Stride.failedProbes_concat` and the like).

## Main results

* `Device.Deed.probeAttempts_eq`, `Device.Deed.messagingAttempts_eq`,
  `Device.Deed.operationalChecks_eq`: what an action adds to the counters.
* `Device.Deed.gives_up_iff`: the device gives up with the third failed session.
* `Device.accounted_step`: a step keeps the accounts.
* `Journey.counters_eq_history`: after every run the counters hold what the history says.
-/

namespace Onboarding

namespace Contact

/-- Whether a call is a probe that failed. -/
def isMiss : Contact → Bool
  | probe reached => !reached
  | _ => false

/-- Whether a call is a look at a session that is established. -/
def finds : Contact → Bool
  | poll established => established
  | _ => false

/-- Whether among some calls a session is begun that is not established. -/
def sessionFails (contacts : List Contact) : Bool :=
  contacts.any isStart && !contacts.any finds

/-- Looks in vain are no probes. -/
theorem AreSilent.countP_isMiss {contacts : List Contact} (h : AreSilent contacts) :
    contacts.countP isMiss = 0 := by
  rw [List.countP_eq_zero]
  intro x hx
  simp [h x hx, isMiss]

/-- Looks in vain find nothing. -/
theorem AreSilent.any_finds {contacts : List Contact} (h : AreSilent contacts) :
    contacts.any finds = false := by
  rw [List.any_eq_false]
  intro x hx
  simp [h x hx, finds]

/-- A session fails that is begun, looked at in vain, and ended. -/
theorem AreSilent.sessionFails {polls : List Contact} (h : AreSilent polls) (c : Certificates)
    (result : Except PeerError Unit) :
    sessionFails (.start c result :: polls ++ [.stop]) = true := by
  simp [Contact.sessionFails, isStart, finds, h.any_finds]

end Contact

namespace Stride

/-- Whether a step enters one of some stages from another one. -/
def enters (stages : List Stage) (s : Stride) : Bool :=
  decide (s.target ≠ s.origin ∧ s.target ∈ stages)

/-- The steps since one of some stages was entered the last time; all steps, if none was. -/
def since (stages : List Stage) (strides : List Stride) : List Stride :=
  strides.rtakeWhile fun s => !s.enters stages

/-- Whether a session fails in a step and is counted, which it is unless the record is gone in the
meantime. -/
def countsFailure (s : Stride) : Bool :=
  Contact.sessionFails s.contacts && s.target != .apMode

/-- Whether a step finds the open session alive. -/
def attends (s : Stride) : Bool :=
  decide (s.origin = .operational) && s.contacts.any Contact.finds

/-- The failed probes since the network or the access point was entered. -/
def failedProbes (strides : List Stride) : Nat :=
  ((since [.wifiConnected, .apMode] strides).flatMap contacts).countP Contact.isMiss

/-- The failed sessions that were counted since a session was established or the access point was
entered. -/
def failedSessions (strides : List Stride) : Nat :=
  (since [.operational, .apMode] strides).countP countsFailure

/-- The looks at the open session since it was established. -/
def attendances (strides : List Stride) : Nat :=
  (since [.operational] strides).countP attends

variable (strides : List Stride) (s : Stride)

theorem since_concat (stages : List Stage) :
    since stages (strides ++ [s]) =
      if s.enters stages then [] else since stages strides ++ [s] := by
  rw [since, List.rtakeWhile_concat]
  cases s.enters stages <;> rfl

theorem failedProbes_concat :
    failedProbes (strides ++ [s]) =
      if s.enters [.wifiConnected, .apMode] then 0
      else failedProbes strides + s.contacts.countP Contact.isMiss := by
  rw [failedProbes, since_concat]
  split
  · rfl
  · rw [List.flatMap_append, List.flatMap_singleton, List.countP_append, failedProbes]

theorem failedSessions_concat :
    failedSessions (strides ++ [s]) =
      if s.enters [.operational, .apMode] then 0
      else failedSessions strides + s.countsFailure.toNat := by
  rw [failedSessions, since_concat]
  split
  · rfl
  · rw [List.countP_append, List.countP_singleton, failedSessions]
    cases s.countsFailure <;> rfl

theorem attendances_concat :
    attendances (strides ++ [s]) =
      if s.enters [.operational] then 0 else attendances strides + s.attends.toNat := by
  rw [attendances, since_concat]
  split
  · rfl
  · rw [List.countP_append, List.countP_singleton, attendances]
    cases s.attends <;> rfl

end Stride

/-! ### What is reset -/

namespace Lifecycle

variable (l : Lifecycle) (next : Stage)

theorem probeAttempts_enter :
    (l.enter next).counters.probeAttempts =
      if next ≠ l.stage ∧ next ∈ [.wifiConnected, .apMode] then 0
      else l.counters.probeAttempts := by
  by_cases h : next = l.stage
  · simp [enter, h]
  · cases next <;> simp [enter, reset, h]

theorem messagingAttempts_enter :
    (l.enter next).counters.messagingAttempts =
      if next ≠ l.stage ∧ next ∈ [.operational, .apMode] then 0
      else l.counters.messagingAttempts := by
  by_cases h : next = l.stage
  · simp [enter, h]
  · cases next <;> simp [enter, reset, h]

theorem operationalChecks_enter :
    (l.enter next).counters.operationalChecks =
      if next ≠ l.stage ∧ next ∈ [.operational] then 0 else l.counters.operationalChecks := by
  by_cases h : next = l.stage
  · simp [enter, h]
  · cases next <;> simp [enter, reset, h]

end Lifecycle

/-! ### What is added -/

namespace Device

variable {ρ κ : Type} {d e : Device ρ (Logged κ)} {next : Stage} {contacts : List Contact}

/-- **An action counts the probes that fail.** -/
theorem Deed.probeAttempts_eq (h : Deed d e next contacts) :
    e.lifecycle.counters.probeAttempts =
      d.lifecycle.counters.probeAttempts + contacts.countP Contact.isMiss := by
  cases h with
  | pass _ counters =>
      obtain ⟨asked, hcounters⟩ := counters
      rw [hcounters]
      rfl
  | equip _ _ _ _ lifecycle | issue _ _ _ _ _ lifecycle =>
      rw [lifecycle]
      rfl
  | reach _ kept | refuse _ _ _ _ kept | finish _ kept | lose _ kept =>
      rw [kept.lifecycle_eq]
      rfl
  | miss _ counters | attend _ counters =>
      rw [counters]
      rfl
  | establish _ _ _ _ _ silent kept | abandon _ _ _ _ _ _ silent kept =>
      rw [kept.lifecycle_eq]
      simp [silent.countP_isMiss, Contact.isMiss]
  | fail _ _ _ _ _ _ silent counters =>
      rw [counters]
      simp [silent.countP_isMiss, Contact.isMiss]

/-- **An action counts the session that fails**, unless the record is gone. -/
theorem Deed.messagingAttempts_eq (h : Deed d e next contacts) :
    e.lifecycle.counters.messagingAttempts =
      d.lifecycle.counters.messagingAttempts +
        (Contact.sessionFails contacts && next != .apMode).toNat := by
  cases h with
  | pass _ counters =>
      obtain ⟨asked, hcounters⟩ := counters
      rw [hcounters]
      rfl
  | equip _ _ _ _ lifecycle | issue _ _ _ _ _ lifecycle =>
      rw [lifecycle]
      rfl
  | reach _ kept | refuse _ _ _ _ kept | finish _ kept | lose _ kept =>
      rw [kept.lifecycle_eq]
      rfl
  | miss _ counters | attend _ counters =>
      rw [counters]
      rfl
  | establish _ _ _ _ _ _ kept =>
      rw [kept.lifecycle_eq]
      simp [Contact.sessionFails, Contact.finds]
  | abandon _ _ _ _ _ _ _ kept =>
      rw [kept.lifecycle_eq]
      simp
  | fail _ _ _ _ _ _ silent counters _ target =>
      have hnext : (next != .apMode) = true := by
        rw [target]
        split <;> rfl
      rw [counters, silent.sessionFails, hnext]
      rfl

/-- **An action counts the look at the open session**, up to the thirtieth. -/
theorem Deed.operationalChecks_eq (h : Deed d e next contacts)
    (hd : d.lifecycle.counters.operationalChecks < heartbeatInterval) :
    e.lifecycle.counters.operationalChecks =
      (d.lifecycle.counters.operationalChecks +
        (decide (d.lifecycle.stage = .operational) && contacts.any Contact.finds).toNat) %
          heartbeatInterval := by
  have hsame : e.lifecycle.counters.operationalChecks = d.lifecycle.counters.operationalChecks →
      (decide (d.lifecycle.stage = .operational) && contacts.any Contact.finds) = false →
      e.lifecycle.counters.operationalChecks =
        (d.lifecycle.counters.operationalChecks +
          (decide (d.lifecycle.stage = .operational) && contacts.any Contact.finds).toNat) %
            heartbeatInterval := by
    intro hcounters hnone
    rw [hcounters, hnone]
    exact (Nat.mod_eq_of_lt hd).symm
  cases h with
  | pass _ counters =>
      obtain ⟨asked, hcounters⟩ := counters
      exact hsame (by rw [hcounters]) (by simp)
  | equip _ _ _ _ lifecycle => exact hsame (by rw [lifecycle]) (by simp)
  | issue _ _ _ _ _ lifecycle => exact hsame (by rw [lifecycle]) (by simp [Contact.finds])
  | reach _ kept | refuse _ _ _ _ kept | finish _ kept | lose _ kept =>
      exact hsame (by rw [kept.lifecycle_eq]) (by simp [Contact.finds])
  | miss _ counters => exact hsame (by rw [counters]) (by simp [Contact.finds])
  | establish _ _ origin _ _ _ kept | abandon _ _ _ origin _ _ _ kept =>
      exact hsame (by rw [kept.lifecycle_eq]) (by simp [origin])
  | fail _ _ _ origin _ _ _ counters => exact hsame (by rw [counters]) (by simp [origin])
  | attend origin counters =>
      have hone : (decide (d.lifecycle.stage = .operational) &&
          [Contact.poll true].any Contact.finds).toNat = 1 := by
        rw [origin]
        rfl
      rw [counters, hone, countCheck]
      by_cases hfull : heartbeatInterval ≤ d.lifecycle.counters.operationalChecks + 1
      · have hlast : d.lifecycle.counters.operationalChecks + 1 = heartbeatInterval := by omega
        rw [hlast]
        rfl
      · rw [Nat.mod_eq_of_lt (Nat.lt_of_not_le hfull)]
        exact if_neg hfull

/-- A second failed probe leads back to the access point. -/
theorem Deed.probeAttempts_le (h : Deed d e next contacts)
    (hd : d.lifecycle.counters.probeAttempts ≤ 1) :
    e.lifecycle.counters.probeAttempts ≤ 1 ∨ next = .apMode ∧ d.lifecycle.stage ≠ .apMode := by
  have hcount := h.probeAttempts_eq
  cases h with
  | pass | equip | reach | issue | refuse | finish | lose | attend =>
      left
      simpa [hcount, Contact.isMiss] using hd
  | establish _ _ _ _ _ silent | abandon _ _ _ _ _ _ silent | fail _ _ _ _ _ _ silent =>
      left
      simpa [hcount, Contact.isMiss, silent.countP_isMiss] using hd
  | miss origin _ _ target =>
      by_cases hmax : maxProbeAttempts ≤ d.lifecycle.counters.probeAttempts + 1
      · exact .inr ⟨by rw [target, if_pos hmax], by simp [origin]⟩
      · have hone : [Contact.probe false].countP Contact.isMiss = 1 := rfl
        rw [maxProbeAttempts] at hmax
        left
        omega

/-- Nobody who calls nobody gives up. -/
theorem Passes.error_iff (h : d.Passes next) : next = .error ↔ d.lifecycle.stage = .error := by
  cases h with
  | early origin target =>
      constructor
      · rintro rfl
        simp [Stage.isEarly] at target
      · intro hstage
        simp [hstage, Stage.isEarly] at origin
  | unset _ alive => simp [alive]
  | broken origin | unissued origin | unread origin | unequipped origin | ended origin =>
      simp [origin]

/-- **The device gives up with the third failed session** and with nothing else, and stays so. -/
theorem Deed.gives_up_iff (h : Deed d e next contacts)
    (hd : d.lifecycle.stage ≠ .error → d.lifecycle.counters.messagingAttempts ≤ 2) :
    (next = .error ∧ d.lifecycle.stage ≠ .error ↔
      (Contact.sessionFails contacts && next != .apMode) = true ∧
        d.lifecycle.counters.messagingAttempts = 2) ∧
    (d.lifecycle.stage = .error → next = .error) := by
  have hidle : (next = .error ↔ d.lifecycle.stage = .error) →
      (Contact.sessionFails contacts && next != .apMode) = false →
      (next = .error ∧ d.lifecycle.stage ≠ .error ↔
        (Contact.sessionFails contacts && next != .apMode) = true ∧
          d.lifecycle.counters.messagingAttempts = 2) ∧
      (d.lifecycle.stage = .error → next = .error) := by
    intro hstage hnone
    refine ⟨iff_of_false ?_ ?_, hstage.mpr⟩
    · rintro ⟨hnext, halive⟩
      exact halive (hstage.mp hnext)
    · simp [hnone]
  cases h with
  | pass passes => exact hidle passes.error_iff rfl
  | equip _ origin | reach origin | issue _ _ origin | refuse _ _ origin | finish origin
  | lose origin | attend origin =>
      exact hidle (by simp [origin]) (by simp [Contact.sessionFails, Contact.isStart])
  | miss origin _ _ target =>
      refine hidle ?_ (by simp [Contact.sessionFails, Contact.isStart])
      rw [target]
      split <;> simp [origin]
  | establish _ _ origin =>
      exact hidle (by simp [origin]) (by simp [Contact.sessionFails, Contact.finds])
  | abandon _ _ _ origin => exact hidle (by simp [origin]) (by simp)
  | fail _ _ _ origin _ _ silent _ _ target =>
      have halive : d.lifecycle.stage ≠ .error := by simp [origin]
      have hle := hd halive
      by_cases hover : maxMessagingAttempts ≤ d.lifecycle.counters.messagingAttempts + 1
      · rw [if_pos hover] at target
        rw [maxMessagingAttempts] at hover
        refine ⟨iff_of_true ⟨target, halive⟩ ⟨?_, by omega⟩, fun _ => target⟩
        rw [target, silent.sessionFails]
        rfl
      · rw [if_neg hover] at target
        rw [maxMessagingAttempts] at hover
        refine ⟨iff_of_false ?_ ?_, fun hstage => absurd hstage halive⟩
        · rintro ⟨hnext, -⟩
          simp [target] at hnext
        · rintro ⟨-, htwo⟩
          omega

/-- A session that fails was begun, and not by a device that gave up. -/
theorem Deed.alive_of_sessionFails (h : Deed d e next contacts)
    (hfails : Contact.sessionFails contacts = true) : d.lifecycle.stage ≠ .error := by
  rcases h.starts_first with hnone | ⟨-, -, -, -, horigin, -⟩
  · have hany : contacts.any Contact.isStart = false := by simpa using hnone
    simp [Contact.sessionFails, hany] at hfails
  · simp [horigin]

/-! ### What a step does to the counters -/

variable [Radio ρ] [Peers κ] (d : Device ρ (Logged κ))

theorem probeAttempts_step :
    d.step.lifecycle.counters.probeAttempts =
      if d.stride.enters [.wifiConnected, .apMode] then 0
      else d.lifecycle.counters.probeAttempts + d.stride.contacts.countP Contact.isMiss := by
  have hstage : d.drain.act.1.lifecycle.stage = d.stride.origin := d.drain.stage_act
  rw [lifecycle_step, Lifecycle.probeAttempts_enter, hstage, d.deed_stride.probeAttempts_eq]
  simp only [Stride.enters, decide_eq_true_eq]
  rfl

theorem messagingAttempts_step :
    d.step.lifecycle.counters.messagingAttempts =
      if d.stride.enters [.operational, .apMode] then 0
      else d.lifecycle.counters.messagingAttempts + d.stride.countsFailure.toNat := by
  have hstage : d.drain.act.1.lifecycle.stage = d.stride.origin := d.drain.stage_act
  rw [lifecycle_step, Lifecycle.messagingAttempts_enter, hstage,
    d.deed_stride.messagingAttempts_eq]
  simp only [Stride.enters, decide_eq_true_eq]
  rfl

theorem operationalChecks_step (hd : d.lifecycle.counters.operationalChecks < heartbeatInterval) :
    d.step.lifecycle.counters.operationalChecks =
      if d.stride.enters [.operational] then 0
      else (d.lifecycle.counters.operationalChecks + d.stride.attends.toNat) %
        heartbeatInterval := by
  have hstage : d.drain.act.1.lifecycle.stage = d.stride.origin := d.drain.stage_act
  rw [lifecycle_step, Lifecycle.operationalChecks_enter, hstage,
    d.deed_stride.operationalChecks_eq hd]
  simp only [Stride.enters, decide_eq_true_eq]
  rfl

variable {d}

/-- Few probes fail before the access point is entered. -/
theorem probeAttempts_step_le (hd : d.lifecycle.counters.probeAttempts ≤ 1) :
    d.step.lifecycle.counters.probeAttempts ≤ 1 := by
  rw [probeAttempts_step]
  split
  · exact Nat.zero_le 1
  · rename_i hnot
    refine Nat.le_trans (Nat.le_of_eq d.deed_stride.probeAttempts_eq.symm) ?_
    rcases d.deed_stride.probeAttempts_le hd with hle | ⟨hback, horigin⟩
    · exact hle
    · refine absurd ?_ hnot
      have hleaves : d.stride.target ≠ d.stride.origin := fun hsame =>
        horigin (hsame.symm.trans hback)
      exact decide_eq_true ⟨hleaves, by simp [hback]⟩

/-- Few sessions fail before the device gives up. -/
theorem messagingAttempts_step_le
    (hd : d.lifecycle.stage ≠ .error → d.lifecycle.counters.messagingAttempts ≤ 2)
    (hle : d.lifecycle.counters.messagingAttempts ≤ 3) :
    (d.step.lifecycle.stage ≠ .error → d.step.lifecycle.counters.messagingAttempts ≤ 2) ∧
      d.step.lifecycle.counters.messagingAttempts ≤ 3 := by
  obtain ⟨hgives, hstays⟩ := d.deed_stride.gives_up_iff hd
  have halive : d.stride.countsFailure = true → d.lifecycle.stage ≠ .error := fun hcounts =>
    d.deed_stride.alive_of_sessionFails (Bool.and_eq_true_iff.mp hcounts).1
  rw [messagingAttempts_step]
  split
  · exact ⟨fun _ => Nat.zero_le 2, Nat.zero_le 3⟩
  · cases hcounts : d.stride.countsFailure with
    | false => exact ⟨fun hnext => hd fun hover => hnext (hstays hover), hle⟩
    | true =>
        have hfew := hd (halive hcounts)
        refine ⟨?_, Nat.succ_le_succ hfew⟩
        intro hnext
        have hnot : d.lifecycle.counters.messagingAttempts ≠ 2 := fun htwo =>
          hnext (hgives.mpr ⟨hcounts, htwo⟩).1
        rw [Bool.toNat_true]
        omega

/-- Before a session is established no look is counted. -/
theorem operationalChecks_step_of_not_enters (horigin : d.lifecycle.stage ≠ .operational)
    (hzero : d.lifecycle.counters.operationalChecks = 0)
    (hnot : d.stride.enters [.operational] = false) :
    d.step.lifecycle.stage ≠ .operational ∧ d.step.lifecycle.counters.operationalChecks = 0 := by
  refine ⟨?_, ?_⟩
  · intro htarget
    have hstay : ¬(d.stride.target ≠ d.stride.origin ∧ d.stride.target ∈ [Stage.operational]) :=
      of_decide_eq_false hnot
    refine hstay ⟨?_, List.mem_singleton.mpr htarget⟩
    intro hsame
    exact horigin (hsame.symm.trans htarget)
  · have hidle : d.stride.attends = false := by
      simp [Stride.attends, show d.stride.origin ≠ .operational from horigin]
    rw [operationalChecks_step d (by rw [hzero]; decide), hnot, hidle, hzero]
    rfl

end Device

/-- A lifecycle of which the counters hold what the history says. -/
structure Lifecycle.Accounted (l : Lifecycle) (strides : List Stride) : Prop where
  probes : l.counters.probeAttempts = Stride.failedProbes strides
  sessions : l.counters.messagingAttempts = Stride.failedSessions strides
  checks : l.counters.operationalChecks = Stride.attendances strides % heartbeatInterval
  /-- Before a session was established for the first time, no look was counted. -/
  unopened : (∀ s ∈ strides, s.enters [.operational] = false) →
    l.stage ≠ .operational ∧ l.counters.operationalChecks = 0
  probes_le : l.counters.probeAttempts ≤ 1
  sessions_le : l.stage ≠ .error → l.counters.messagingAttempts ≤ 2
  sessions_le_three : l.counters.messagingAttempts ≤ 3
  /-- The device gives up in the step that counts the third failed session, and in no other. -/
  gives_up : Throughout (fun earlier s => s.target = .error ∧ s.origin ≠ .error ↔
    s.countsFailure = true ∧ Stride.failedSessions earlier = 2) strides
  /-- A device that gave up stays so. -/
  stays : ∀ s ∈ strides, s.origin = .error → s.target = .error

/-- Before the first step nothing is counted, and nothing happened. -/
theorem Lifecycle.accounted_nil : Lifecycle.Accounted {} [] where
  probes := rfl
  sessions := rfl
  checks := rfl
  unopened _ := ⟨by decide, rfl⟩
  probes_le := Nat.zero_le 1
  sessions_le _ := Nat.zero_le 2
  sessions_le_three := Nat.zero_le 3
  gives_up := .nil
  stays _ hs := absurd hs List.not_mem_nil

/-- The looks are counted up to the thirtieth. -/
theorem Lifecycle.Accounted.checks_lt {l : Lifecycle} {strides : List Stride}
    (h : l.Accounted strides) : l.counters.operationalChecks < heartbeatInterval := by
  rw [h.checks]
  exact Nat.mod_lt _ (by decide)

namespace Device

variable {ρ κ : Type} [Radio ρ] [Peers κ] {d : Device ρ (Logged κ)} {strides : List Stride}

/-- **A step keeps the accounts.** -/
theorem accounted_step (h : d.lifecycle.Accounted strides) :
    d.step.lifecycle.Accounted (strides ++ [d.stride]) where
  probes := by rw [probeAttempts_step, Stride.failedProbes_concat, h.probes]
  sessions := by rw [messagingAttempts_step, Stride.failedSessions_concat, h.sessions]
  checks := by
    rw [operationalChecks_step d h.checks_lt, Stride.attendances_concat, h.checks, Nat.mod_add_mod]
    split <;> rfl
  unopened := by
    intro hnever
    obtain ⟨horigin, hzero⟩ := h.unopened fun s hs => hnever s (List.mem_append_left _ hs)
    have hnot := hnever d.stride (List.mem_append_right _ (List.mem_singleton_self _))
    exact operationalChecks_step_of_not_enters horigin hzero hnot
  probes_le := probeAttempts_step_le h.probes_le
  sessions_le := (messagingAttempts_step_le h.sessions_le h.sessions_le_three).1
  sessions_le_three := (messagingAttempts_step_le h.sessions_le h.sessions_le_three).2
  gives_up := by
    refine h.gives_up.concat ?_
    rw [← h.sessions]
    exact (d.deed_stride.gives_up_iff h.sessions_le).1
  stays := by
    intro s hs
    rcases List.mem_append.mp hs with hold | hnew
    · exact h.stays s hold
    · rw [List.mem_singleton.mp hnew]
      exact (d.deed_stride.gives_up_iff h.sessions_le).2

end Device

namespace Journey

variable {ρ κ : Type} [Radio ρ] [Peers κ]

/-- **After every run the counters hold what the history says**: the failed probes and the failed
sessions since they were reset, and the looks at the open session modulo thirty. So no counter
comes near a bound, the device gives up with the third failed session, and it stays so. -/
theorem counters_eq_history (settings : Settings) (radio : ρ) (port : Faults) (store : Store)
    (peers : κ) (incidents : List Incident) :
    let j := (booted settings radio port store peers).run incidents
    let counters := j.device.lifecycle.counters
    counters.probeAttempts = Stride.failedProbes j.strides ∧
    counters.messagingAttempts = Stride.failedSessions j.strides ∧
    counters.operationalChecks = Stride.attendances j.strides % heartbeatInterval ∧
    ((∀ s ∈ j.strides, s.enters [.operational] = false) → counters.operationalChecks = 0) ∧
    counters.probeAttempts ≤ 1 ∧
    (j.device.lifecycle.stage ≠ .error → counters.messagingAttempts ≤ 2) ∧
    Throughout (fun earlier s => s.target = .error ∧ s.origin ≠ .error ↔
      s.countsFailure = true ∧ Stride.failedSessions earlier = 2) j.strides ∧
    (∀ s ∈ j.strides, s.origin = .error → s.target = .error) ∧
    counters.messagingAttempts ≤ 3 ∧ counters.operationalChecks < heartbeatInterval := by
  intro j counters
  have hj : j.device.lifecycle.Accounted j.strides := by
    refine run_induct (P := fun k => k.device.lifecycle.Accounted k.strides) ?_
      Lifecycle.accounted_nil
    intro k i _ hk
    rcases k.undergo_cases i with hstep | ⟨hstrides, hrests⟩
    · rw [hstep]
      exact Device.accounted_step hk
    · rw [hstrides, hrests.lifecycle_eq]
      exact hk
  exact ⟨hj.probes, hj.sessions, hj.checks, fun hnever => (hj.unopened hnever).2, hj.probes_le,
    hj.sessions_le, hj.gives_up, hj.stays, hj.sessions_le_three, hj.checks_lt⟩

end Journey

end Onboarding
