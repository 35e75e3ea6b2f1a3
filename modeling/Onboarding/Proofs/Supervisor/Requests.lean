import Onboarding.Proofs.Portal.Answers
import Onboarding.Supervisor

/-!
# Requests to a supervisor's portal

A request reaches a session only while the portal accepts requests. Over a store that refuses
nothing there are two outcomes: the request is a submission, which is saved, queued once, and closes
the session; or nothing changes but the scans.

## Main results

* `Supervisor.handle_cases`: the two outcomes of a request.
* `Supervisor.saveRecord_of_handle`: on the path of submissions nothing but a saved record succeeds.
-/

namespace Onboarding

/-- Whether an answer accepts a submission. -/
def Response.isAcceptance (answer : Option Response) : Bool :=
  answer.any (·.followUp.isSome)

namespace Supervisor

variable {ρ : Type}

/-- A supervisor that differs from another in its radio, its scanned networks, and whether a scan is
still running. -/
def ScansOnly (s t : Supervisor ρ) : Prop :=
  ∃ radio cache scanning,
    t = { s with
            hub := { s.hub with radio, cache }
            session := s.session.map fun x => { x with scanning } }

theorem ScansOnly.rfl (s : Supervisor ρ) : s.ScansOnly s := by
  refine ⟨s.hub.radio, s.hub.cache, s.session.any Session.scanning, ?_⟩
  cases h : s.session with
  | none => rw [Option.map_none, ← h]
  | some x => rw [Option.map_some, Option.any_some, ← h]

/-- What a portal does to its scans is what a supervisor sees of it. -/
theorem scansOnly_of_portal {s : Supervisor ρ} {x : Session} {p : Portal ρ}
    (hx : s.session = some x) (h : Portal.ScansOnly ⟨s.hub, x, s.address⟩ p) :
    s.ScansOnly { s with hub := p.hub, session := some p.session } := by
  obtain ⟨radio, cache, scanning, rfl⟩ := h
  refine ⟨radio, cache, scanning, ?_⟩
  rw [hx, Option.map_some]

/-- A scan that nobody waits for any more comes to its end. -/
def finishScan (s : Supervisor ρ) (reply : ScanReply) : Supervisor ρ :=
  match s.session with
  | some x =>
    let p := Portal.finishScan ⟨s.hub, x, s.address⟩ reply
    { s with hub := p.hub, session := some p.session }
  | none => s

theorem finishScan_scansOnly (s : Supervisor ρ) (reply : ScanReply) :
    s.ScansOnly (s.finishScan reply) := by
  rw [finishScan]
  split
  · rename_i x hx
    exact scansOnly_of_portal hx (Portal.finishScan_scansOnly _ reply)
  · exact .rfl s

/-- The end of a scan is no business of the radio. -/
theorem radio_finishScan (s : Supervisor ρ) (reply : ScanReply) :
    (s.finishScan reply).hub.radio = s.hub.radio := by
  rw [finishScan]
  split
  · rw [Portal.finishScan]
    split <;> rfl
  · rfl

/-- A portal that accepts requests has an active session. -/
theorem isListening_iff {s : Supervisor ρ} :
    s.isListening = true ↔ ∃ x, s.session = some x ∧ x.active = true := by
  rw [isListening, Option.any_eq_true]

variable [Radio ρ]

/-- A portal that does not accept requests answers none. -/
theorem handle_of_not_isListening {s : Supervisor ρ} (h : s.isListening = false) (r : Request) :
    s.handle r = (s, none) := by
  rw [handle]
  split
  · rename_i x hx
    rw [if_neg]
    simpa [isListening, hx] using h
  · rfl

/-- A request that reaches a session is answered by it. -/
theorem handle_of_session {s : Supervisor ρ} {x : Session} (hx : s.session = some x)
    (hactive : x.active = true) (r : Request) :
    s.handle r =
      ({ s with
          hub := (Portal.handle ⟨s.hub, x, s.address⟩ r).1.hub
          session := some (Portal.handle ⟨s.hub, x, s.address⟩ r).1.session },
        some (Portal.handle ⟨s.hub, x, s.address⟩ r).2) := by
  rw [handle, hx]
  simp only [hactive, if_true]

/-- A request makes the radio scan once at most. -/
theorem scansAtMost_handle (s : Supervisor ρ) (r : Request) :
    Portal.ScansAtMost s.hub.radio (s.handle r).1.hub.radio := by
  cases hl : s.isListening with
  | false =>
      rw [handle_of_not_isListening hl]
      exact .inl rfl
  | true =>
      obtain ⟨x, hx, hactive⟩ := isListening_iff.mp hl
      rw [handle_of_session hx hactive]
      exact Portal.scansAtMost_handle ⟨s.hub, x, s.address⟩ r

/-- A request puts a submission into the queue at most. -/
theorem inbox_handle (s : Supervisor ρ) (r : Request) :
    (s.handle r).1.hub.inbox = s.hub.inbox ∨
      ∃ c, (s.handle r).1.hub.inbox = s.hub.inbox.push [.submitted c] := by
  cases hl : s.isListening with
  | false =>
      rw [handle_of_not_isListening hl]
      exact .inl rfl
  | true =>
      obtain ⟨x, hx, hactive⟩ := isListening_iff.mp hl
      rw [handle_of_session hx hactive]
      cases Portal.outcome ⟨s.hub, x, s.address⟩ r with
      | refused _ handle_eq | unsaved _ _ _ _ _ _ handle_eq =>
          rw [handle_eq]
          exact .inl rfl
      | plain _ _ scans =>
          obtain ⟨radio, cache, scanning, hscan⟩ := scans
          rw [hscan]
          exact .inl rfl
      | saved q store _ _ _ handle_eq =>
          rw [handle_eq]
          exact .inr ⟨q.credentials, rfl⟩

/-- A request leaves the store as it was, or is a submission that is saved as far as the store takes
it. -/
theorem store_handle (s : Supervisor ρ) (r : Request) :
    (s.handle r).1.hub.store = s.hub.store ∨
      ∃ x, (s.handle r).1.hub.store = (s.hub.store.saveRecord x).1 := by
  cases hl : s.isListening with
  | false =>
      rw [handle_of_not_isListening hl]
      exact .inl rfl
  | true =>
      obtain ⟨x, hx, hactive⟩ := isListening_iff.mp hl
      rw [handle_of_session hx hactive]
      cases Portal.outcome ⟨s.hub, x, s.address⟩ r with
      | refused _ handle_eq =>
          rw [handle_eq]
          exact .inl rfl
      | plain _ _ scans =>
          obtain ⟨radio, cache, scanning, hscan⟩ := scans
          rw [hscan]
          exact .inl rfl
      | saved q store _ _ save handle_eq | unsaved q store _ _ _ save handle_eq =>
          rw [handle_eq]
          exact .inr ⟨q.record r.token?, (congrArg Prod.fst save).symm⟩

/-- **A request is an accepted submission or changes nothing but the scans**, if the store refuses
nothing. -/
theorem handle_cases {s : Supervisor ρ} (hs : s.hub.store.Reliable) (r : Request) :
    (s.ScansOnly (s.handle r).1 ∧ Response.isAcceptance (s.handle r).2 = false) ∨
    ∃ (q : ProvisionRequest) (x : Session) (store : Store),
      s.session = some x ∧ x.active = true ∧ x.submitted = false ∧
      s.hub.store.saveRecord (q.record r.token?) = (store, .ok ()) ∧
      (s.handle r).1 =
        { s with
            hub := { s.hub with store, inbox := s.hub.inbox.push [.submitted q.credentials] }
            session := some { x with submitted := true, active := false } } ∧
      Response.isAcceptance (s.handle r).2 = true := by
  cases hl : s.isListening with
  | false =>
      rw [handle_of_not_isListening hl]
      exact .inl ⟨.rfl s, rfl⟩
  | true =>
      obtain ⟨x, hx, hactive⟩ := isListening_iff.mp hl
      rw [handle_of_session hx hactive]
      cases Portal.outcome ⟨s.hub, x, s.address⟩ r with
      | refused _ handle_eq =>
          rw [handle_eq]
          exact .inl ⟨scansOnly_of_portal hx (.rfl _), rfl⟩
      | plain _ _ scans answer =>
          refine .inl ⟨scansOnly_of_portal hx scans, ?_⟩
          simp [Response.isAcceptance, answer.2]
      | saved q store unclaimed _ save handle_eq =>
          rw [handle_eq]
          exact .inr ⟨q, x, store, hx, hactive, unclaimed, save, rfl, rfl⟩
      | unsaved q store e _ _ save =>
          obtain ⟨t, hsave, -⟩ := hs.perform (Store.saveWrites (q.record r.token?))
          have herror : s.hub.store.perform (Store.saveWrites (q.record r.token?)) =
              (store, .error e) := save
          rw [hsave] at herror
          simp at herror

/-- **A success on the path of submissions is a record that was saved**, by a portal that accepted
requests. -/
theorem saveRecord_of_handle {s : Supervisor ρ} {r : Request} {a : Response}
    (hpath : r.route.1 = "/provision") (h : (s.handle r).2 = some a) (ha : a.status = 200) :
    s.isListening = true ∧ ∃ q, r.submission? = some q ∧
      s.hub.store.saveRecord (q.record r.token?) = ((s.handle r).1.hub.store, .ok ()) := by
  cases hl : s.isListening with
  | false =>
      rw [handle_of_not_isListening hl] at h
      simp at h
  | true =>
      obtain ⟨x, hx, hactive⟩ := isListening_iff.mp hl
      rw [handle_of_session hx hactive] at h ⊢
      obtain rfl : (Portal.handle ⟨s.hub, x, s.address⟩ r).2 = a := Option.some.inj h
      exact ⟨rfl, Portal.saveRecord_of_handle hpath ha⟩

end Supervisor

end Onboarding
