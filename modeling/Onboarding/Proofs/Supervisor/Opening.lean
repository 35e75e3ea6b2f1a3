import Onboarding.Proofs.Supervisor.Snapshots

/-!
# What opening the portal reports

Opening the portal can go wrong twice, after the old session is gone: the radio may refuse the
access point, and somebody else may have the port. The supervisor cleans up after the second error
only. After the first it keeps the mode and the connectivity that it had, so a supervisor whose
session was closed before goes on as if its access point were up.

## Main results

* `Supervisor.openingOutcome`: the four outcomes of opening the portal.
* `Supervisor.opening_of_surveyed`: a success is a portal that is open, and can be repeated; an
  error leaves no session, and what else it leaves depends on the error.
-/

namespace Onboarding

namespace Supervisor

variable {ρ : Type}

/-- Between calls the mode, the connectivity and the session agree, whatever scans are left. -/
theorem Surveyed.agrees [Radio ρ] {s t : Supervisor (SurveyRadio ρ)} {n : Nat} (hs : s.Agrees)
    (h : s.Surveyed t n) : t.Agrees := by
  induction h with
  | start => exact hs
  | call c hc _ ih => exact ih.perform c
  | scanned reply hscanning _ ih =>
      exact (ih.perform (.scanned reply)).congr ⟨rfl, rfl, rfl, rfl⟩
  | overdue reply _ ih => exact ih.congr ⟨rfl, rfl, rfl, rfl⟩
  | meanwhile radio store held port _ ih => exact ih.congr ⟨rfl, rfl, rfl, rfl⟩

/-- What opening the portal comes to. -/
inductive OpeningOutcome [Radio ρ] (s : Supervisor ρ) : Prop where
  /-- The portal is open already. -/
  | listening (listens : s.isListening = true) (result_eq : s.startProvisioning = (s, .ok ()))
  /-- The radio refuses the access point. The old session is gone by then. -/
  | refused (e : RadioError) (result_eq : s.startProvisioning = (s.announced, .error (.radio e)))
  /-- Somebody else has the port. -/
  | taken (error_eq : s.startProvisioning.2 = .error portTaken)
      (session_eq : s.startProvisioning.1.session = none)
      (state_eq : s.startProvisioning.1.state = .idle)
      (connectivity_eq : s.startProvisioning.1.hub.connectivity = .disconnected)
      (snapshot_eq : s.startProvisioning.1.hub.cache.snapshot = {})
  | opened (ok_eq : s.startProvisioning.2 = .ok ())
      (session_eq : s.startProvisioning.1.session = some { active := true })
      (state_eq : s.startProvisioning.1.state = .apActive)
      (connectivity_eq : s.startProvisioning.1.hub.connectivity = .provisioning)

variable [Radio ρ]

/-- **Opening the portal has four outcomes.** -/
theorem openingOutcome (s : Supervisor ρ) : s.OpeningOutcome := by
  cases hlisten : s.isListening with
  | true => exact .listening hlisten (startProvisioning_of_listening hlisten)
  | false =>
      cases hresult : (Radio.startAccessPoint s.accessPoint s.hub.radio).result with
      | error e => exact .refused e (startProvisioning_of_error hlisten hresult)
      | ok _ =>
          have hopening := startProvisioning_of_ok hlisten hresult
          have hsession : s.announced.session = none := s.session_stopProvisioning
          cases hport : s.announced.port.next.1 with
          | true =>
              simp only [openSession, hport, if_true] at hopening
              exact .taken (by rw [hopening]) (by rw [hopening]; exact hsession)
                (by rw [hopening]; rfl) (by rw [hopening]; rfl) (by rw [hopening]; rfl)
          | false =>
              simp only [openSession, hport, Bool.false_eq_true, if_false] at hopening
              exact .opened (by rw [hopening]) (by rw [hopening]; rfl) (by rw [hopening]; rfl)
                (by rw [hopening]; rfl)

/-- **What opening the portal reports**, whatever was called before. After a success the portal is
open, the mode is that of an access point, a network is being set up, and the call can be repeated
without changing anything. After an error there is no session. If the port was taken, the
supervisor is idle and nothing is left of the scan. If the radio refused, the mode and the
connectivity are those of before, and a snapshot is that of an overdue scan. -/
theorem opening_of_surveyed (settings : Settings) (radio : ρ) (store : Store) (port : Faults)
    {s : Supervisor (SurveyRadio ρ)} {n : Nat}
    (h : (booted settings radio store port).Surveyed s n) :
    let t := s.startProvisioning.1
    (s.startProvisioning.2 = .ok () →
      t.isListening = true ∧ t.state = .apActive ∧ t.hub.connectivity = .provisioning ∧
        t.startProvisioning = (t, .ok ())) ∧
    ∀ e, s.startProvisioning.2 = .error e → t.session = none ∧
      (e = portTaken ∧ t.state = .idle ∧ t.hub.connectivity = .disconnected ∧
          t.hub.cache.snapshot.populated = false ∨
        (∃ why, e = .radio why) ∧ t.state = s.state ∧
          t.hub.connectivity = s.hub.connectivity ∧
          (t.hub.cache.snapshot.populated = true → ∃ networks,
            .overdue (.found networks) ∈ s.survey ∧
              t.hub.cache.snapshot = ⟨networks.take ScanCache.capacity, true⟩)) := by
  intro t
  have hagrees : s.Agrees := h.agrees (.of_disconnected rfl rfl rfl rfl)
  have hs : s.Accounted := h.accounted (accounted_booted settings radio store port)
  cases s.openingOutcome with
  | listening listens result_eq =>
      obtain ⟨x, hx, -⟩ := isListening_iff.mp listens
      have hsession : s.session.isSome = true := by rw [hx]; rfl
      have ht : t = s := congrArg Prod.fst result_eq
      rw [ht, result_eq]
      refine ⟨fun _ => ⟨listens, hagrees.session hsession,
        hagrees.connectivity_of_session hsession, rfl⟩, fun e he => ?_⟩
      simp at he
  | refused why result_eq =>
      have ht : t = s.announced := congrArg Prod.fst result_eq
      rw [ht, result_eq]
      refine ⟨fun hok => by simp at hok, fun e he => ?_⟩
      obtain rfl : SupervisorError.radio why = e := Except.error.inj he
      refine ⟨s.session_stopProvisioning, .inr ⟨⟨why, rfl⟩, s.state_stopProvisioning, ?_, ?_⟩⟩
      · exact s.connectivity_stopProvisioning
      · intro hpopulated
        have hsurvey : s.stopProvisioning.survey = s.survey :=
          congrArg SurveyRadio.survey s.radio_stopProvisioning
        obtain ⟨networks, hsnapshot, hcurrent | hoverdue⟩ := hs.stopProvisioning hpopulated
        · simp at hcurrent
        · exact ⟨networks, hsurvey ▸ hoverdue, hsnapshot⟩
  | taken error_eq session_eq state_eq connectivity_eq snapshot_eq =>
      refine ⟨fun hok => by simp [error_eq] at hok, fun e he => ?_⟩
      obtain rfl : portTaken = e := Except.error.inj (error_eq.symm.trans he)
      refine ⟨session_eq, .inl ⟨rfl, state_eq, connectivity_eq, ?_⟩⟩
      exact congrArg Snapshot.populated snapshot_eq
  | opened ok_eq session_eq state_eq connectivity_eq =>
      have hlisten : t.isListening = true := isListening_iff.mpr ⟨_, session_eq, rfl⟩
      refine ⟨fun _ => ⟨hlisten, state_eq, connectivity_eq,
        startProvisioning_of_listening hlisten⟩, fun e he => ?_⟩
      simp [ok_eq] at he

/-- The portal is opened and closed, and the radio refuses to open the access point again. The
error leaves the mode of an access point, and clients would be told that a network is being set
up. -/
theorem opening_of_surveyed_of_refusal :
    let start : Supervisor (SurveyRadio ScriptedRadio) :=
      booted {} { networks := [] } (.memory {}) .never
    let closed := (start.perform .startProvisioning).perform .stopProvisioning
    let refusing := closed.perform (.meanwhile
      { closed.hub.radio with
          radio := { networks := [], script := { startAccessPoint := some .notStarted } } }
      closed.hub.store { closed.hub.cache with held := false } closed.port)
    let after := refusing.startProvisioning.1
    start.Surveyed refusing 0 ∧ refusing.startProvisioning.2 = .error (.radio .notStarted) ∧
      after.session = none ∧ after.state = .apActive ∧
      after.hub.connectivity = .provisioning := by
  intro start closed refusing after
  have hreached : start.Surveyed refusing 0 :=
    .meanwhile _ _ _ _ (.call .stopProvisioning rfl (.call .startProvisioning rfl .start))
  have herror : refusing.startProvisioning.2 = .error (.radio .notStarted) := rfl
  obtain ⟨-, hrefused⟩ := opening_of_surveyed {} _ _ _ hreached
  obtain ⟨hsession, ⟨htaken, -⟩ | ⟨-, hstate, hconnectivity, -⟩⟩ := hrefused _ herror
  · simp [portTaken] at htaken
  · exact ⟨hreached, herror, hsession, hstate, hconnectivity⟩

end Supervisor

end Onboarding
