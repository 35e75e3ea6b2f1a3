import Onboarding.Proofs.Device.Run
import Onboarding.Proofs.Supervisor.Phase

/-!
# A portal that accepts requests has no record to lose

The portal is opened by a restart, which clears the record first, and in access point mode, which is
left once there is a record. A submission that the store takes closes the portal, and a network is
joined without one. So as long as the store refuses nothing, no record is stored while the portal
accepts requests, whatever radio, port and peers do.

## Main results

* `Supervisor.Guarded.handleEvent`, `Supervisor.Guarded.handle`: an event and a request keep a
  supervisor guarded.
* `Device.guarded_undergo`: so does whatever happens.
* `Device.unset_of_isListening`: over any run, a portal that accepts requests has an unset flag, and
  a submission that succeeds was saved over it.
-/

namespace Onboarding

namespace Supervisor

variable {ρ : Type}

/-- The store refuses nothing, and there is no record in it while the portal accepts requests. -/
structure Guarded (s : Supervisor ρ) : Prop where
  reliable : s.hub.store.Reliable
  unset : s.isListening = true → s.hub.store.isProvisioned ≠ .ok true

namespace Guarded

variable {s t : Supervisor ρ}

/-- Whether a supervisor is guarded is a matter of its session and its store. -/
theorem congr (hs : s.Guarded) (hsession : t.session = s.session)
    (hstore : t.hub.store = s.hub.store) : t.Guarded where
  reliable := hstore ▸ hs.reliable
  unset := by
    intro hlisten
    rw [isListening, hsession] at hlisten
    rw [hstore]
    exact hs.unset hlisten

/-- Without a session there is nothing to guard. -/
theorem of_session_none (hstore : s.hub.store.Reliable) (h : s.session = none) : s.Guarded := by
  refine ⟨hstore, ?_⟩
  intro hlisten
  simp [isListening, h] at hlisten

/-- Events can be queued. -/
theorem push (hs : s.Guarded) (es : List Event) : (s.push es).Guarded :=
  hs.congr rfl rfl

/-- A scan that ends adds no record and opens no session. -/
theorem scansOnly (hs : s.Guarded) (h : s.ScansOnly t) : t.Guarded := by
  obtain ⟨radio, cache, scanning, rfl⟩ := h
  refine ⟨hs.reliable, ?_⟩
  intro hlisten
  obtain ⟨y, hy, hactive⟩ := isListening_iff.mp hlisten
  obtain ⟨x, hx, rfl⟩ := Option.map_eq_some_iff.mp hy
  exact hs.unset (isListening_iff.mpr ⟨x, hx, hactive⟩)

variable [Radio ρ]

/-! ### Operations -/

/-- The portal may be opened while there is no record. -/
theorem startProvisioning (hs : s.Guarded) (hunset : s.hub.store.isProvisioned ≠ .ok true) :
    s.startProvisioning.1.Guarded := by
  have hstore := s.keeps_startProvisioning.store_eq
  refine ⟨hstore ▸ hs.reliable, ?_⟩
  intro _
  rwa [hstore]

/-- Joining a network ends the session. -/
theorem connectStation (hs : s.Guarded) (c : Credentials) : (s.connectStation c).1.Guarded := by
  have hstore := (s.keeps_connectStation c).store_eq
  exact of_session_none (hstore ▸ hs.reliable) (s.session_connectStation c)

theorem ensureStation (hs : s.Guarded) (c : Credentials) : (s.ensureStation c).1.Guarded := by
  rw [Supervisor.ensureStation]
  split
  · exact hs
  · exact hs.connectStation c

/-- A restart clears the record before it opens the portal. -/
theorem clearAndRestart (hs : s.Guarded) : s.clearAndRestart.Guarded := by
  have hstore := s.store_clearAndRestart
  obtain ⟨hreliable, hflag⟩ := hs.reliable.clearRecord
  refine ⟨hstore ▸ hreliable, ?_⟩
  intro _
  rw [hstore, hflag]
  simp

/-! ### Events and requests -/

/-- What the radio reports closes the portal or opens it over a cleared record. -/
theorem handleLink (hs : s.Guarded) (e : LinkEvent) : (s.handleLink e).Guarded := by
  cases e with
  | stationStarted | clientJoined | clientLeft | clientGotIp => exact hs
  | stationConnected | gotIp =>
      rw [Supervisor.handleLink]
      split <;> exact hs.congr rfl rfl
  | stationDisconnected reason =>
      rw [Supervisor.handleLink]
      split
      · rw [linkLost]
        split
        · exact hs.clearAndRestart
        · exact hs.congr rfl rfl
      · exact hs

/-- **An event keeps a supervisor guarded.** -/
theorem handleEvent (hs : s.Guarded) (e : Event) : (s.handleEvent e).Guarded := by
  cases e with
  | submitted c => exact hs.connectStation c
  | link e => exact hs.handleLink e

/-- Draining the queue keeps a supervisor guarded, event by event. -/
theorem drain (hs : s.Guarded) : s.drain.Guarded := by
  refine drain_induct ?_ hs
  intro t e rest _ ht
  have hrest : (t.withEvents rest).Guarded := ht.congr rfl rfl
  exact hrest.handleEvent e

/-- **A request keeps a supervisor guarded**: a submission that is saved closes the session. -/
theorem handle (hs : s.Guarded) (r : Request) : (s.handle r).1.Guarded := by
  rcases handle_cases hs.reliable r with ⟨hscan, -⟩ | hsaved
  · exact hs.scansOnly hscan
  · obtain ⟨q, x, store, -, -, -, hsave, heq, -⟩ := hsaved
    rw [heq]
    refine ⟨hs.reliable.of_perform hsave, ?_⟩
    intro hlisten
    simp [isListening] at hlisten

end Guarded

end Supervisor

namespace Device

open Supervisor (Guarded)

variable {ρ κ : Type} [Radio ρ] [Peers κ]

/-- A move of any stage keeps a device guarded: the portal is opened where the flag is known to be
unset. -/
theorem guarded_move {stage : Stage} {d e : Device ρ κ} (hmove : Move stage d e)
    (h : d.supervisor.Guarded) : e.supervisor.Guarded := by
  cases hmove with
  | drain => exact h.drain
  | count | equip | stop => exact h
  | probe | issue | start | poll => exact h.push _
  | listen _ hunset => exact h.startProvisioning (isProvisioned_eq_false_iff.mp hunset)
  | join _ r => exact h.ensureStation r.credentials
  | reset => exact h.clearAndRestart
  | keep _ c =>
      obtain ⟨hreliable, -, hflag⟩ := h.reliable.saveCertificates c
      refine ⟨hreliable, ?_⟩
      intro hlisten
      have hunset := h.unset hlisten
      rwa [← hflag] at hunset

/-- **Whatever happens keeps a device guarded.** -/
theorem guarded_undergo {d : Device ρ κ} (h : d.supervisor.Guarded) (happening : Happening) :
    (d.undergo happening).supervisor.Guarded := by
  cases happening with
  | step =>
      have hact : d.drain.act.1.supervisor.Guarded :=
        moves_induct (P := fun e => e.supervisor.Guarded) (fun _ _ => guarded_move)
          d.drain.moves_act h.drain
      exact hact
  | wait => exact h.drain
  | link e => exact h.push [.link e]
  | request r => exact h.handle r
  | scanned reply => exact h.scansOnly (d.supervisor.finishScan_scansOnly reply)

/-- **While the portal accepts requests no record is stored**, at any time of any run, and so every
submission that succeeds is saved where there was none. -/
theorem unset_of_isListening (settings : Settings) (radio : ρ) (port : Faults) (store : Store)
    (hstore : store.Reliable) (peers : κ) (happenings : List Happening) :
    let d := (booted settings radio port store peers).run happenings
    (d.supervisor.isListening = true → d.store.isProvisioned ≠ .ok true) ∧
      ∀ (r : Request) (a : Response), r.route.1 = "/provision" → (d.request r).2 = some a →
        a.status = 200 → d.store.isProvisioned ≠ .ok true ∧
          ∃ q, r.submission? = some q ∧
            d.store.saveRecord (q.record r.token?) = ((d.request r).1.store, .ok ()) := by
  intro d
  have hboot : (booted settings radio port store peers).supervisor.Guarded :=
    Guarded.of_session_none hstore rfl
  have hrun : d.supervisor.Guarded :=
    run_induct (P := fun e => e.supervisor.Guarded)
      (fun _ happening h => guarded_undergo h happening) hboot happenings
  refine ⟨hrun.unset, ?_⟩
  intro r a hpath hanswer hstatus
  obtain ⟨hlisten, hsaved⟩ := Supervisor.saveRecord_of_handle hpath hanswer hstatus
  exact ⟨hrun.unset hlisten, hsaved⟩

/-- The record is of a network that is gone. It is cleared before the portal opens, and a submission
is saved where it was. -/
theorem unset_of_isListening_of_gone :
    let store := ((Store.memory {}).saveRecord ⟨"Gone", "", "", "", none, true⟩).1
    let radio : HostRadio := { networks := [] }
    let peers : HostPeers :=
      { surroundings := ⟨.unreachable, []⟩, probeTarget := "",
        directory := ⟨"", .absent, .absent⟩, session := { broker := "" } }
    let body := "\x7b\"ssid\":\"Home\",\"password\":\"\",\"device_id\":\"\"," ++
      "\"provisioning_token\":\"\"\x7d"
    let submission : Request :=
      { method := "POST", target := "/provision", body := ⟨[Utf8.encode body], none⟩ }
    let d := (booted {} radio .never store peers).run [.step, .step, .step]
    d.supervisor.isListening = true ∧ d.store.isProvisioned ≠ .ok true ∧
      ∃ q, submission.submission? = some q ∧
        d.store.saveRecord (q.record submission.token?) =
          ((d.request submission).1.store, .ok ()) := by
  intro store radio peers body submission d
  obtain ⟨hunset, hsaved⟩ :=
    unset_of_isListening {} radio .never store rfl peers [.step, .step, .step]
  have hlisten : d.supervisor.isListening = true := by decide +kernel
  have hpath : submission.route.1 = "/provision" := by decide +kernel
  have hstatus : (d.request submission).2.map Response.status = some 200 := by decide +kernel
  obtain ⟨a, hanswer, ha⟩ := Option.map_eq_some_iff.mp hstatus
  exact ⟨hlisten, hunset hlisten, (hsaved submission a hpath hanswer ha).2⟩

end Device

end Onboarding
