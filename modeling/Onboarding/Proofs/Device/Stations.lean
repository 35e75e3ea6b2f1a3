import Onboarding.Proofs.Device.Run
import Onboarding.Proofs.Store.Atomic
import Onboarding.Proofs.Supervisor.Discipline

/-!
# Which networks a device joins

A device joins a network when a submission is handled, and when it waits for a connection and has
not asked for one yet. The credentials were read at different times in the two cases, and still they
are always those of the stored record. No network is joined while a station connection exists or is
being attempted, so after a join that the radio accepts it is asked for the same network only, until
it is switched off.

A run is made of single turns (`Device.Turn`): an event is handled, or a step takes its action. A
turn joins a network with its first call or not at all, so the moment of the call is where the turn
begins.

## Main results

* `Device.Composed.act`: an action keeps a supervisor disciplined.
* `Device.disciplined_run`: so does a run.
* `Device.joins_disciplined`: every join is for the stored record, and none follows another.
-/

namespace Onboarding

namespace Device

variable {ρ κ : Type} [Radio ρ] [Peers κ]

/-- The single turns of a run: an event is handled at the beginning of a step or in a wait, or a
step takes its action. -/
inductive Turn (d : Device (LoggedRadio ρ) κ) (happenings : List Happening) :
    Supervisor (LoggedRadio ρ) → Supervisor (LoggedRadio ρ) → Prop
  | event (past : List Happening) (h : Happening) (handled : Nat)
      (hpast : past ++ [h] <+: happenings) (hdrains : h = .step ∨ h = .wait) :
      Turn d happenings ((d.run past).supervisor.after handled)
        ((d.run past).supervisor.after (handled + 1))
  | action (past : List Happening) (hpast : past ++ [.step] <+: happenings) :
      Turn d happenings (d.run past).drain.supervisor (d.run past).step.supervisor

/-- A longer run has the turns of the shorter one. -/
theorem Turn.mono {d : Device (LoggedRadio ρ) κ} {happenings longer : List Happening}
    (hlonger : happenings <+: longer) {m n : Supervisor (LoggedRadio ρ)}
    (h : Turn d happenings m n) : Turn d longer m n := by
  cases h with
  | event past h handled hpast hdrains =>
      exact .event past h handled (hpast.trans hlonger) hdrains
  | action past hpast => exact .action past (hpast.trans hlonger)

/-- A device in the middle of a step: its supervisor is disciplined, and no submission waits. -/
structure Composed (turn : Supervisor (LoggedRadio ρ) → Supervisor (LoggedRadio ρ) → Prop)
    (d : Device (LoggedRadio ρ) κ) : Prop where
  disciplined : d.supervisor.Disciplined turn
  quiet : d.supervisor.submissions = []

namespace Composed

variable {turn : Supervisor (LoggedRadio ρ) → Supervisor (LoggedRadio ρ) → Prop}
  {d e : Device (LoggedRadio ρ) κ}

/-! ### Moves -/

omit [Peers κ] in
/-- Draining the queue again joins nothing. -/
theorem drain (h : d.Composed turn) : d.drain.Composed turn :=
  ⟨h.disciplined.drain (.inl h.quiet), d.supervisor.submissions_drain⟩

omit [Peers κ] in
theorem clearAndRestart (h : d.Composed turn) : d.clearAndRestart.Composed turn where
  disciplined := h.disciplined.clearAndRestart h.quiet
  quiet := d.supervisor.keeps_clearAndRestart.submissions_eq.trans h.quiet

omit [Radio ρ] [Peers κ] in
/-- A peer's answer that brings link events at most leaves a device composed. -/
theorem answered (h : d.Composed turn) {α : Type} {a : PeerAnswer κ α}
    (ha : a.events.filterMap Event.credentials? = []) : (d.answered a).1.Composed turn where
  disciplined := h.disciplined.push ha
  quiet := (Supervisor.keeps_push ha d.supervisor).submissions_eq.trans h.quiet

omit [Peers κ] in
/-- Without a record there is no station connection, so the portal may be opened. -/
theorem startProvisioning (h : d.Composed turn) (hunset : d.isProvisioned = false) :
    ({ d with supervisor := d.supervisor.startProvisioning.1 } :
      Device (LoggedRadio ρ) κ).Composed turn := by
  have hstate : d.supervisor.state.isStation = false := by
    by_contra hstation
    obtain ⟨-, -, hflag⟩ := h.disciplined.station (by simpa using hstation)
    exact isProvisioned_eq_false_iff.mp hunset hflag
  exact ⟨h.disciplined.startProvisioning hstate h.quiet,
    d.supervisor.keeps_startProvisioning.submissions_eq.trans h.quiet⟩

/-- A move of a stage that joins no network leaves a device composed. -/
theorem move [Peers.BringLinks κ] {stage : Stage} (hstage : stage ≠ .connectingWifi)
    (hmove : Move stage d e) (h : d.Composed turn) : e.Composed turn := by
  cases hmove with
  | drain => exact h.drain
  | count | equip | stop => exact ⟨h.disciplined, h.quiet⟩
  | listen _ hunset => exact h.startProvisioning hunset
  | join => exact absurd rfl hstage
  | reset => exact h.clearAndRestart
  | probe => exact h.answered (Peers.BringLinks.probe _)
  | issue => exact h.answered (Peers.BringLinks.issue _ _ _)
  | start => exact h.answered (Peers.BringLinks.start _ _)
  | poll => exact h.answered (Peers.BringLinks.poll _)
  | keep _ c => exact ⟨h.disciplined.saveCertificates h.quiet c, h.quiet⟩

/-! ### Asking for a station connection -/

omit [Peers κ] in
/-- **Asking for a station connection joins the network of the stored record**, if this is the first
call of a turn. -/
theorem ensureStation (h : d.Composed turn) {r : DeviceRecord}
    (hr : d.store.loadRecord = .ok (some r)) {n : Supervisor (LoggedRadio ρ)}
    (hturn : turn d.supervisor n)
    (hafter : (d.supervisor.ensureStation r.credentials).1.calls <+: n.calls) :
    ({ d with supervisor := (d.supervisor.ensureStation r.credentials).1 } :
      Device (LoggedRadio ρ) κ).Composed turn := by
  have hk := d.supervisor.keeps_ensureStation r.credentials
  refine ⟨?_, hk.submissions_eq.trans h.quiet⟩
  rw [Supervisor.ensureStation] at hafter ⊢
  cases hstate : d.supervisor.state.isStation with
  | true =>
      rw [if_pos rfl]
      exact h.disciplined
  | false =>
      rw [hstate, if_neg Bool.false_ne_true] at hafter
      rw [if_neg Bool.false_ne_true]
      have hmay : d.supervisor.MayJoin r.credentials := ⟨hstate, r, hr, rfl⟩
      exact h.disciplined.connectStation h.quiet hmay hturn rfl hafter hmay

end Composed

omit [Peers κ] in
/-- The calls of an attempt come first in the turn that makes it. -/
theorem calls_prefix_requestStation (d : Device (LoggedRadio ρ) κ) {r : DeviceRecord}
    (hr : d.store.loadRecord = .ok (some r)) :
    (d.supervisor.ensureStation r.credentials).1.calls <+: d.requestStation.1.supervisor.calls := by
  rw [requestStation, hr]
  dsimp only
  split <;> rename_i heq <;> rw [heq]
  · exact Supervisor.calls_prefix_drain _
  · exact Supervisor.calls_prefix_clearAndRestart _
  · exact Supervisor.calls_prefix_drain _

namespace Composed

variable {turn : Supervisor (LoggedRadio ρ) → Supervisor (LoggedRadio ρ) → Prop}
  {d : Device (LoggedRadio ρ) κ}

omit [Peers κ] in
/-- Asking for the connection leaves a device composed. -/
theorem requestStation (h : d.Composed turn)
    (hturn : turn d.supervisor d.requestStation.1.supervisor) :
    d.requestStation.1.Composed turn := by
  have hjoined : ∀ r, d.store.loadRecord = .ok (some r) →
      ({ d with supervisor := (d.supervisor.ensureStation r.credentials).1 } :
        Device (LoggedRadio ρ) κ).Composed turn :=
    fun r hr => h.ensureStation hr hturn (d.calls_prefix_requestStation hr)
  rw [Device.requestStation]
  split
  · rename_i r hr
    have hjoined := hjoined r hr
    split <;> rename_i heq <;> rw [heq] at hjoined
    · exact Composed.drain ⟨hjoined.disciplined, hjoined.quiet⟩
    · exact hjoined.clearAndRestart
    · exact hjoined.drain
  · exact h
  · exact h.clearAndRestart
  · exact h.drain

omit [Peers κ] in
/-- Waiting for the connection leaves a device composed. -/
theorem connectingWifi (h : d.Composed turn)
    (hturn : turn d.supervisor d.connectingWifi.1.supervisor) :
    d.connectingWifi.1.Composed turn := by
  rw [Device.connectingWifi] at hturn ⊢
  split_ifs at hturn ⊢
  · exact h
  · exact h
  · exact h.drain
  · exact h.requestStation hturn

/-- **An action leaves a device composed.** -/
theorem act [Peers.BringLinks κ] (h : d.Composed turn)
    (hturn : turn d.supervisor d.act.1.supervisor) : d.act.1.Composed turn := by
  by_cases hstage : d.lifecycle.stage = .connectingWifi
  · rw [Device.act, hstage] at hturn ⊢
    exact h.connectingWifi hturn
  · exact moves_induct (fun _ _ hmove hd => hd.move hstage hmove) d.moves_act h

end Composed

/-! ### Runs -/

/-- A run that goes on. -/
theorem run_concat (d : Device ρ κ) (happenings : List Happening) (h : Happening) :
    d.run (happenings ++ [h]) = (d.run happenings).undergo h := by
  rw [run, List.foldl_append]
  rfl

/-- A drain keeps the discipline, if its events are handled in turns of the run. -/
theorem disciplined_drain {d : Device (LoggedRadio ρ) κ} {past : List Happening} {h : Happening}
    (hd : (d.run past).supervisor.Disciplined (d.Turn (past ++ [h])))
    (hdrains : h = .step ∨ h = .wait) : (d.run past).drain.Composed (d.Turn (past ++ [h])) where
  disciplined := hd.drain (.inr fun k => .event past h k (List.prefix_refl _) hdrains)
  quiet := (d.run past).supervisor.submissions_drain

/-- **Whatever happens keeps the discipline.** -/
theorem disciplined_undergo [Peers.BringLinks κ] {d : Device (LoggedRadio ρ) κ}
    {past : List Happening} (hd : (d.run past).supervisor.Disciplined (d.Turn past))
    (h : Happening) :
    ((d.run past).undergo h).supervisor.Disciplined (d.Turn (past ++ [h])) := by
  have hnow : (d.run past).supervisor.Disciplined (d.Turn (past ++ [h])) :=
    hd.mono fun _ _ => Turn.mono (List.prefix_append _ _)
  cases h with
  | step =>
      have hdrain := disciplined_drain hnow (.inl rfl)
      have hact : (d.run past).drain.act.1.Composed (d.Turn (past ++ [.step])) :=
        hdrain.act (.action past (List.prefix_refl _))
      exact hact.disciplined
  | wait => exact (disciplined_drain hnow (.inr rfl)).disciplined
  | link e => exact hnow.push rfl
  | request r => exact hnow.handle r
  | scanned reply => exact hnow.finishScan reply

/-- **A run keeps the discipline.** -/
theorem disciplined_run [Peers.BringLinks κ] {d : Device (LoggedRadio ρ) κ}
    (hd : ∀ turn, d.supervisor.Disciplined turn) (happenings : List Happening) :
    (d.run happenings).supervisor.Disciplined (d.Turn happenings) := by
  induction happenings using List.reverseRecOn with
  | nil => exact hd _
  | append_singleton past h ih =>
      rw [run_concat]
      exact disciplined_undergo ih h

/-- A host boots a device with a store that has no staged changes. -/
theorem isUnstaged_of_openStore {settings : Settings} {place : Place} {store : Store}
    (h : Boot.openStore settings place = .ok store) : store.IsUnstaged := by
  rw [Boot.openStore] at h
  cases hopen : FileStore.openAt place with
  | error e =>
      rw [hopen] at h
      cases h
  | ok f =>
      have hsettled := Store.isSettled_opened hopen
      rw [hopen] at h
      obtain rfl := Except.ok.inj h
      split
      · exact (hsettled.call (c := .eraseAll) rfl).steady.isUnstaged
      · exact hsettled.steady.isUnstaged

omit [Radio ρ] [Peers κ] in
/-- A device boots with a radio that nobody has called. -/
theorem disciplined_booted (settings : Settings) (radio : ρ) (port : Faults) {store : Store}
    (hstore : store.IsUnstaged) (peers : κ)
    (turn : Supervisor (LoggedRadio ρ) → Supervisor (LoggedRadio ρ) → Prop) :
    (booted settings (⟨radio, []⟩ : LoggedRadio ρ) port store peers).supervisor.Disciplined turn :=
  .of_free hstore rfl rfl .nil not_pending_nil

/-- **Every join is for the credentials of the stored record, at a time when no station connection
exists or is being attempted; after a join that was accepted the same network is joined again, until
the radio is switched off.** -/
theorem joins_disciplined [Peers.BringLinks κ] (settings : Settings) (radio : ρ) (port : Faults)
    (store : Store) (hstore : store.IsUnstaged) (peers : κ) (happenings : List Happening) :
    let d := booted settings (⟨radio, []⟩ : LoggedRadio ρ) port store peers
    let calls := (d.run happenings).supervisor.calls
    (∀ earlier c accepted later, calls = earlier ++ .call (.join c accepted) :: later →
      ∃ m n, d.Turn happenings m n ∧
        m.calls = earlier ∧ earlier ++ [.call (.join c accepted)] <+: n.calls ∧
        m.state.isStation = false ∧
        ∃ r, m.hub.store.loadRecord = .ok (some r) ∧ r.credentials = c) ∧
    (∀ earlier x later, calls = earlier ++ x :: later → RadioNote.Engaged earlier →
      x.isRejoin = true ∨ x.isStop = true) := by
  intro d calls
  have hrun := disciplined_run (disciplined_booted settings radio port hstore peers) happenings
  refine ⟨?_, ?_⟩
  · intro earlier c accepted later hcalls
    obtain ⟨hjoin, -⟩ := hrun.proper earlier _ later hcalls
    obtain ⟨m, n, hturn, hbefore, hafter, hmay⟩ := hjoin c accepted rfl
    exact ⟨m, n, hturn, hbefore, hafter, hmay.free, hmay.record⟩
  · intro earlier x later hcalls
    exact (hrun.proper earlier x later hcalls).2

/-- The network of the stored record is gone, its record is cleared, and a client submits another,
which is joined in a wait; in between the radio was switched off. -/
theorem joins_disciplined_of_gone :
    let store := ((Store.memory {}).saveRecord ⟨"Gone", "", "", "", none, true⟩).1
    let radio : HostRadio := { networks := [⟨"Home", 0, 1, false⟩] }
    let peers : HostPeers :=
      { surroundings := ⟨.unreachable, []⟩, probeTarget := "",
        directory := ⟨"", .absent, .absent⟩, session := { broker := "" } }
    let body := "\x7b\"ssid\":\"Home\",\"password\":\"\",\"device_id\":\"\"," ++
      "\"provisioning_token\":\"\"\x7d"
    let submission : Request :=
      { method := "POST", target := "/provision", body := ⟨[Utf8.encode body], none⟩ }
    let happenings := [.step, .step, .step, .request submission, .wait]
    let d := booted {} (⟨radio, []⟩ : LoggedRadio HostRadio) .never store peers
    let calls := (d.run happenings).supervisor.calls
    let gone := RadioNote.call (.join ⟨"Gone", ""⟩ true)
    let off := RadioNote.call (.stop true)
    let home := RadioNote.call (.join ⟨"Home", ""⟩ true)
    calls = [gone] ++ off :: calls.drop 2 ∧ (off.isRejoin = true ∨ off.isStop = true) ∧
      ∃ m n, d.Turn happenings m n ∧ m.calls = calls.take 4 ∧ calls.take 4 ++ [home] <+: n.calls ∧
        m.state.isStation = false ∧
        ∃ r, m.hub.store.loadRecord = .ok (some r) ∧ r.credentials = ⟨"Home", ""⟩ := by
  intro store radio peers body submission happenings d calls gone off home
  have hoff : calls = [gone] ++ off :: calls.drop 2 := by decide +kernel
  have hhome : calls = calls.take 4 ++ home :: [] := by decide +kernel
  have hengaged : RadioNote.Engaged [gone] := ⟨[], gone, [], rfl, rfl, by simp⟩
  obtain ⟨hjoins, hcalls⟩ := joins_disciplined {} radio .never store trivial peers happenings
  exact ⟨hoff, hcalls _ _ _ hoff hengaged, hjoins _ _ _ _ hhome⟩

end Device

end Onboarding
