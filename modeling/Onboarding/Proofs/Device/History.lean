import Onboarding.Proofs.Device.Deeds
import Onboarding.Proofs.Device.Run

/-!
# The history of a device

A journey is a device together with the history of its steps. Of each step is remembered from which
stage to which it led, the store as its action found it, and the calls that it made (`Stride`).
Between the steps anything may happen: events are queued, clients make requests, the store is
written by somebody else, and sessions are given more time or less (`Incident`).

What holds throughout a journey is proved step by step. What one step does is a deed
(`Device.deed_stride`), and whatever else happens leaves the stage, the counters, the certificates
at hand and the log alone (`Journey.undergo_cases`).

## Main results

* `Device.deed_stride`: what is remembered of a step is a deed.
* `Journey.undergo_cases`: whatever happens is a step, or the device rests.
* `Journey.run_induct`: induction along a journey.
* `Journey.log_run`: the log of the device is the calls of its steps.
-/

namespace Onboarding

/-- What is remembered of a step. -/
structure Stride where
  /-- The stage that the step began in. -/
  origin : Stage
  /-- The stage that it led to. -/
  target : Stage
  /-- The store as its action found it. -/
  store : Store
  /-- The calls that it made, oldest first. -/
  contacts : List Contact

/-- What can happen to a device and around it. -/
inductive Incident where
  | happens (happening : Happening)
  /-- Events are queued, whatever they are. -/
  | queue (events : List Event)
  /-- A session is from now on given another time, in looks at it. -/
  | pace (looks : Nat)
  /-- Somebody else writes the store, or decides anew which of the coming writes fail. -/
  | replace (store : Store)

/-- Whether the store is left to the device. -/
def Incident.leavesStore : Incident → Bool
  | happens _ | queue _ | pace _ => true
  | replace _ => false

namespace Device

variable {ρ κ : Type}

/-- The device with another store. -/
def withStore (d : Device ρ κ) (store : Store) : Device ρ κ :=
  { d with supervisor := { d.supervisor with hub := { d.supervisor.hub with store } } }

/-- What something leaves alone that is no step: the stage, the counters, the certificates and the
log. -/
structure Rests (d e : Device ρ (Logged κ)) : Prop extends d.Kept e where
  log_eq : e.log = d.log

variable [Radio ρ] [Peers κ]

/-- What will be remembered of the next step. -/
def stride (d : Device ρ (Logged κ)) : Stride where
  origin := d.lifecycle.stage
  target := d.step.lifecycle.stage
  store := d.drain.store
  contacts := d.step.log.drop d.log.length

/-- A step adds its calls to the log. -/
theorem log_step (d : Device ρ (Logged κ)) : d.step.log = d.log ++ d.stride.contacts := by
  obtain ⟨contacts, hlog, -⟩ := d.drain.deed_act
  have hstep : d.step.log = d.log ++ contacts := hlog
  rw [stride, hstep, List.drop_left]

/-- **What is remembered of a step is a deed**, done after the queue is drained. -/
theorem deed_stride (d : Device ρ (Logged κ)) :
    Deed d.drain d.drain.act.1 d.stride.target d.stride.contacts := by
  obtain ⟨contacts, hlog, hdeed⟩ := d.drain.deed_act
  have hstep : d.step.log = d.log ++ contacts := hlog
  rw [stride, hstep, List.drop_left, stage_step]
  exact hdeed

/-- A step enters the stage that it leads to. -/
theorem lifecycle_step (d : Device ρ (Logged κ)) :
    d.step.lifecycle = d.drain.act.1.lifecycle.enter d.stride.target := by
  rw [stride, stage_step]
  rfl

end Device

/-- A device with the history of its steps. -/
structure Journey (ρ κ : Type) where
  device : Device ρ (Logged κ)
  /-- The steps so far, oldest first. -/
  strides : List Stride := []

namespace Journey

variable {ρ κ : Type}

/-- A device before its first step. -/
def booted (settings : Settings) (radio : ρ) (port : Faults) (store : Store) (peers : κ) :
    Journey ρ κ where
  device := .booted settings radio port store { peers }

variable [Radio ρ] [Peers κ]

/-- The journey after a step. -/
def advance (j : Journey ρ κ) : Journey ρ κ where
  device := j.device.step
  strides := j.strides ++ [j.device.stride]

/-- The journey after something happened. -/
def undergo (j : Journey ρ κ) : Incident → Journey ρ κ
  | .happens .step => j.advance
  | .happens happening => { j with device := j.device.undergo happening }
  | .queue events =>
    { j with device := { j.device with supervisor := j.device.supervisor.push events } }
  | .pace looks => { j with device := { j.device with patience := looks } }
  | .replace store => { j with device := j.device.withStore store }

/-- The journey after a run. -/
def run (j : Journey ρ κ) (incidents : List Incident) : Journey ρ κ :=
  incidents.foldl undergo j

/-- A journey is about what its device undergoes. -/
theorem device_undergo (j : Journey ρ κ) (happening : Happening) :
    (j.undergo (.happens happening)).device = j.device.undergo happening := by
  cases happening <;> rfl

/-- A journey is about the run of its device. -/
theorem device_run (j : Journey ρ κ) (happenings : List Happening) :
    (j.run (happenings.map .happens)).device = j.device.run happenings := by
  induction happenings generalizing j with
  | nil => rfl
  | cons happening rest ih =>
      have htail : ((j.undergo (.happens happening)).run (rest.map .happens)).device =
          (j.device.undergo happening).run rest := by
        rw [ih, device_undergo]
      exact htail

/-! ### Induction along a journey -/

/-- **Whatever happens is a step, or the device rests.** -/
theorem undergo_cases (j : Journey ρ κ) (i : Incident) :
    j.undergo i = j.advance ∨
      (j.undergo i).strides = j.strides ∧ j.device.Rests (j.undergo i).device := by
  cases i with
  | queue | pace | replace => exact .inr ⟨rfl, ⟨rfl, rfl⟩, rfl⟩
  | happens happening =>
      cases happening with
      | step => exact .inl rfl
      | wait | link | request | scanned => exact .inr ⟨rfl, ⟨rfl, rfl⟩, rfl⟩

/-- **Induction along a journey**: what every incident of a run preserves holds after it. -/
theorem run_induct {P : Journey ρ κ → Prop} {incidents : List Incident}
    (hstep : ∀ (j : Journey ρ κ), ∀ i ∈ incidents, P j → P (j.undergo i)) {j : Journey ρ κ}
    (hj : P j) : P (j.run incidents) := by
  induction incidents generalizing j with
  | nil => exact hj
  | cons i rest ih =>
      have hrest : ∀ (k : Journey ρ κ), ∀ i ∈ rest, P k → P (k.undergo i) :=
        fun k i hi => hstep k i (List.mem_cons_of_mem _ hi)
      exact ih hrest (hstep j i List.mem_cons_self hj)

/-- **The log of a device is the calls of its steps.** -/
theorem log_run (settings : Settings) (radio : ρ) (port : Faults) (store : Store) (peers : κ)
    (incidents : List Incident) :
    let j := (booted settings radio port store peers).run incidents
    j.device.log = j.strides.flatMap Stride.contacts := by
  refine run_induct (P := fun j => j.device.log = j.strides.flatMap Stride.contacts) ?_ rfl
  intro j i _ hj
  rcases j.undergo_cases i with hstep | ⟨hstrides, hrests⟩
  · rw [hstep, advance, Device.log_step, hj, List.flatMap_append, List.flatMap_singleton]
  · rw [hstrides, hrests.log_eq, hj]

/-- What the device does to its store itself is to clear the record, and to save records and
certificates: what these preserve is preserved by what leaves the store to the device. -/
theorem store_undergo {P : Store → Prop} (hclear : ∀ s : Store, P s → P s.clearRecord.1)
    (hrecord : ∀ (s : Store) (r : DeviceRecord), P s → P (s.saveRecord r).1)
    (hsave : ∀ (s : Store) (c : Certificates), P s → P (s.saveCertificates c).1)
    {j : Journey ρ κ} {i : Incident} (hi : i.leavesStore = true) (hj : P j.device.store) :
    P (j.undergo i).device.store := by
  cases i with
  | queue | pace => exact hj
  | replace => simp [Incident.leavesStore] at hi
  | happens happening =>
      rw [device_undergo]
      cases happening with
      | wait => exact Supervisor.store_drain_induct hclear hj
      | link => exact hj
      | scanned reply =>
          obtain ⟨radio, cache, scanning, hscan⟩ :=
            j.device.supervisor.finishScan_scansOnly reply
          rw [Device.undergo, Device.store, hscan]
          exact hj
      | request r =>
          rw [Device.undergo, Device.store, Device.request]
          rcases j.device.supervisor.store_handle r with hsame | ⟨x, hsaved⟩
          · rw [hsame]
            exact hj
          · rw [hsaved]
            exact hrecord _ x hj
      | step =>
          have hdrain : P j.device.drain.store := Supervisor.store_drain_induct hclear hj
          have hact : P j.device.drain.act.1.store :=
            Device.moves_induct (P := fun d => P d.store)
              (fun _ _ hmove => Device.store_move hclear hsave hmove)
              j.device.drain.moves_act hdrain
          exact hact

end Journey

end Onboarding
