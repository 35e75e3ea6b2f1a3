import Onboarding.Proofs.Portal.Answers
import Onboarding.Radio.Host

/-!
# The course of a session

A session answers one request after the other. Around a request the host decides whether the store
refuses what is written, and a scan that nobody waits for any more may come to its end; a `Visit` is
a request with both. Up to the first submission that the store takes, requests leave no trace but
scans. That submission is stored and handed over, and from then on everything is refused.

The invariant behind it has two halves, `Portal.IsOpen` before the submission and a claimed session
after it; a step lemma for each kind of visit carries it along a run.

## Main results

* `Portal.IsOpen.visit_of_not_saves`, `Portal.IsOpen.visit_of_saves`, `Portal.visit_of_submitted`:
  what one visit does.
* `Portal.IsOpen.after`, `Portal.IsOpen.submitted_after`: the session after a run.
* `Portal.one_submission_per_session`: the protocol of a session, request by request.
-/

namespace Onboarding

namespace Store

/-- The store as the host treats it from now on: it refuses everything that is written, or
nothing. -/
def refusing (refuses : Bool) : Store → Store
  | memory m => memory { m with faults := if refuses then .always else .never }
  | file f => file { f with faults := if refuses then .always else .never }

/-- A store without staged changes; a store in memory never has any. -/
def IsUnstaged : Store → Prop
  | memory _ => True
  | file f => f.values = f.committed

/-- Whether writes are refused does not change what is read. -/
theorem get?_refusing (refuses : Bool) (s : Store) (k : String) :
    (s.refusing refuses).get? k = s.get? k := by
  cases s <;> rfl

/-- A store without staged changes that refuses everything or nothing keeps no part of a refused
operation. -/
theorem IsUnstaged.steady_refusing {s : Store} (h : s.IsUnstaged) (refuses : Bool) :
    (s.refusing refuses).Steady := by
  cases s with
  | memory m =>
      cases refuses with
      | true => exact .inr rfl
      | false => exact .inl rfl
  | file f => exact h

/-- A store that keeps no part of a refused operation has no staged changes. -/
theorem Steady.isUnstaged {s : Store} (h : s.Steady) : s.IsUnstaged := by
  cases s with
  | memory m => trivial
  | file f => exact h

end Store

/-- A request, and what happens around it. -/
structure Visit where
  request : Request
  /-- Whether the store refuses what is written from this request on. -/
  refusing : Bool := false
  /-- How a scan that was still running ends before the request. -/
  scanned : Option ScanReply := none

namespace Portal

variable {ρ : Type}

/-- The portal as a visit finds it. -/
def prepared (p : Portal ρ) (v : Visit) : Portal ρ :=
  let p := { p with hub := { p.hub with store := p.hub.store.refusing v.refusing } }
  match v.scanned with
  | some reply => p.finishScan reply
  | none => p

/-- Whether a visit is a submission that the store takes. -/
def saves (p : Portal ρ) (v : Visit) : Bool :=
  match v.request.submission? with
  | some q => ((p.prepared v).hub.store.saveRecord (q.record v.request.token?)).2.isOk
  | none => false

/-- The portal as a visit finds it differs in the scans and in whether writes are refused. -/
theorem prepared_scansOnly (p : Portal ρ) (v : Visit) :
    ScansOnly { p with hub := { p.hub with store := p.hub.store.refusing v.refusing } }
      (p.prepared v) := by
  rw [prepared]
  split
  · exact finishScan_scansOnly _ _
  · exact .rfl _

theorem store_prepared (p : Portal ρ) (v : Visit) :
    (p.prepared v).hub.store = p.hub.store.refusing v.refusing := by
  obtain ⟨_, _, _, h⟩ := p.prepared_scansOnly v
  rw [h]

theorem inbox_prepared (p : Portal ρ) (v : Visit) :
    (p.prepared v).hub.inbox = p.hub.inbox := by
  obtain ⟨_, _, _, h⟩ := p.prepared_scansOnly v
  rw [h]

theorem active_prepared (p : Portal ρ) (v : Visit) :
    (p.prepared v).session.active = p.session.active := by
  obtain ⟨_, _, _, h⟩ := p.prepared_scansOnly v
  rw [h]

theorem submitted_prepared (p : Portal ρ) (v : Visit) :
    (p.prepared v).session.submitted = p.session.submitted := by
  obtain ⟨_, _, _, h⟩ := p.prepared_scansOnly v
  rw [h]

variable [Radio ρ]

/-- Answers a visit. -/
def visit (p : Portal ρ) (v : Visit) : Portal ρ × Response :=
  (p.prepared v).handle v.request

/-- The portal after visits in their order. -/
def after (p : Portal ρ) (visits : List Visit) : Portal ρ :=
  visits.foldl (fun p v => (p.visit v).1) p

/-- Whether one of the visits is a submission that the store takes. -/
def saved (p : Portal ρ) : List Visit → Bool
  | [] => false
  | v :: visits => p.saves v || saved (p.visit v).1 visits

/-! ### What a request is answered -/

/-- The request leaves the session open and what is stored as it is, hands nothing over, and is not
refused for a closed session. -/
structure Keeps (before after : Portal ρ) (answer : Response) : Prop where
  status_ne : answer.status ≠ 503
  get?_eq : ∀ key, after.hub.store.get? key = before.hub.store.get? key
  inbox_eq : after.hub.inbox = before.hub.inbox
  active : after.session.active = true
  unclaimed : after.session.submitted = false

/-- The request stores a record, hands its credentials over once, and closes the session. -/
structure Accepts (before after : Portal ρ) (answer : Response) (r : DeviceRecord) : Prop where
  status_eq : answer.status = 200
  loadRecord_eq : after.hub.store.loadRecord = .ok (some r)
  events_eq : after.hub.inbox.events = before.hub.inbox.events ++ [.submitted ⟨r.ssid, r.password⟩]
  inactive : after.session.active = false

/-- The request is refused for a closed session and changes nothing. -/
structure Refuses (before after : Portal ρ) (answer : Response) : Prop where
  status_eq : answer.status = 503
  body_eq : answer.body = .object [("error", .text "provisioning_closed")]
  store_eq : after.hub.store = before.hub.store
  cache_eq : after.hub.cache = before.hub.cache
  inbox_eq : after.hub.inbox = before.hub.inbox

/-! ### One visit -/

/-- A session that waits for a submission, over a store without staged changes. -/
structure IsOpen (p : Portal ρ) : Prop where
  active : p.session.active = true
  unclaimed : p.session.submitted = false
  unstaged : p.hub.store.IsUnstaged
  heard : p.hub.inbox.closed = false

/-- A visit that saves nothing is answered from an open session, which stays open. -/
theorem IsOpen.visit_of_not_saves {p : Portal ρ} (hp : p.IsOpen) {v : Visit}
    (h : p.saves v = false) :
    p.Keeps (p.visit v).1 (p.visit v).2 ∧ (p.visit v).1.IsOpen := by
  have hclaim : (p.prepared v).session.submitted = false := by
    rw [submitted_prepared, hp.unclaimed]
  have hactive : (p.prepared v).session.active = true := by rw [active_prepared, hp.active]
  have hsteady : (p.prepared v).hub.store.Steady := by
    rw [store_prepared]
    exact hp.unstaged.steady_refusing _
  have hget : ∀ k, (p.prepared v).hub.store.get? k = p.hub.store.get? k := by
    intro k
    rw [store_prepared, Store.get?_refusing]
  rw [visit]
  cases hq : v.request.submission? with
  | none =>
      obtain ⟨⟨_, _, _, hscan⟩, hplain⟩ := handle_of_none hclaim hq
      refine ⟨⟨hplain.1, ?_, ?_, ?_, ?_⟩, ⟨?_, ?_, ?_, ?_⟩⟩ <;> rw [hscan]
      · exact hget
      · exact p.inbox_prepared v
      · exact hactive
      · exact hclaim
      · exact hactive
      · exact hclaim
      · exact hsteady.isUnstaged
      · exact (congrArg Inbox.closed (p.inbox_prepared v)).trans hp.heard
  | some q =>
      cases hsave : (p.prepared v).hub.store.saveRecord (q.record v.request.token?) with
      | mk store result =>
          cases result with
          | ok _ => simp [saves, hq, hsave, Except.isOk, Except.toBool] at h
          | error e =>
              rw [handle_of_unsaved hclaim hq hsave]
              have hstore : store.Steady := by
                have := hsteady.perform (Store.saveWrites (q.record v.request.token?))
                rwa [← Store.saveRecord, hsave] at this
              refine ⟨⟨by simp [Response.refusal, RequestError.status], ?_, ?_, hactive, hclaim⟩,
                ⟨hactive, hclaim, hstore.isUnstaged, ?_⟩⟩
              · intro k
                exact (Store.get?_perform_of_error hsteady hsave k).trans (hget k)
              · exact p.inbox_prepared v
              · exact (congrArg Inbox.closed (p.inbox_prepared v)).trans hp.heard

/-- A visit that saves is accepted, and claims the session. -/
theorem IsOpen.visit_of_saves {p : Portal ρ} (hp : p.IsOpen) {v : Visit}
    (h : p.saves v = true) :
    (∃ r, v.request.Submits r ∧ p.Accepts (p.visit v).1 (p.visit v).2 r) ∧
    (p.visit v).1.session.submitted = true := by
  have hclaim : (p.prepared v).session.submitted = false := by
    rw [submitted_prepared, hp.unclaimed]
  have hinbox : (p.prepared v).hub.inbox = p.hub.inbox := p.inbox_prepared v
  rw [saves] at h
  split at h
  · rename_i q hq
    cases hsave : (p.prepared v).hub.store.saveRecord (q.record v.request.token?) with
    | mk store result =>
        cases result with
        | error e => simp [hsave, Except.isOk, Except.toBool] at h
        | ok _ =>
            rw [visit, handle_of_saved hclaim hq hsave]
            have hr : v.request.Submits (q.record v.request.token?) :=
              (Request.submits_iff hq).mpr rfl
            refine ⟨⟨_, hr, rfl, Store.loadRecord_saveRecord hsave, ?_, rfl⟩, rfl⟩
            simp only [Inbox.push, hinbox, hp.heard]
            rfl
  · simp at h

/-- A claimed session refuses a visit and stays claimed. -/
theorem visit_of_submitted {p : Portal ρ} (h : p.session.submitted = true) (v : Visit) :
    (p.prepared v).Refuses (p.visit v).1 (p.visit v).2 ∧
      (p.visit v).1.session.submitted = true := by
  have hclaim : (p.prepared v).session.submitted = true := by rw [submitted_prepared, h]
  rw [visit, handle_of_submitted hclaim]
  exact ⟨⟨rfl, rfl, rfl, rfl, rfl⟩, hclaim⟩

/-! ### Runs -/

/-- As long as nothing was saved, the session is open. -/
theorem IsOpen.after {p : Portal ρ} (hp : p.IsOpen) {visits : List Visit}
    (h : p.saved visits = false) : (p.after visits).IsOpen := by
  induction visits generalizing p with
  | nil => exact hp
  | cons v visits ih =>
      rw [saved, Bool.or_eq_false_iff] at h
      exact ih (hp.visit_of_not_saves h.1).2 h.2

/-- A claimed session stays claimed. -/
theorem submitted_after {p : Portal ρ} (h : p.session.submitted = true) (visits : List Visit) :
    (p.after visits).session.submitted = true := by
  induction visits generalizing p with
  | nil => exact h
  | cons v visits ih => exact ih (visit_of_submitted h v).2

/-- Once something was saved, the session is claimed. -/
theorem IsOpen.submitted_after {p : Portal ρ} (hp : p.IsOpen) {visits : List Visit}
    (h : p.saved visits = true) : (p.after visits).session.submitted = true := by
  induction visits generalizing p with
  | nil => simp [saved] at h
  | cons v visits ih =>
      cases hv : p.saves v with
      | true => exact Portal.submitted_after (hp.visit_of_saves hv).2 visits
      | false =>
          rw [saved, hv, Bool.false_or] at h
          exact ih (hp.visit_of_not_saves hv).2 h

/-- **One submission per session.** Of any sequence of requests to a session that was just opened,
the first submission that the store takes is stored and handed over and closes the session. Every
request before it leaves what is stored as it is and the session open, and every request after it is
refused and changes nothing. -/
theorem one_submission_per_session (hub : Hub ρ) (address : Ipv4)
    (hstore : hub.store.IsUnstaged) (hinbox : hub.inbox.closed = false)
    (earlier : List Visit) (v : Visit) :
    let start : Portal ρ := ⟨hub, { active := true }, address⟩
    let before := start.after earlier
    let after := (before.visit v).1
    let answer := (before.visit v).2
    (start.saved earlier = false → before.saves v = false → before.Keeps after answer) ∧
    (start.saved earlier = false → before.saves v = true →
      ∃ r, v.request.Submits r ∧ before.Accepts after answer r) ∧
    (start.saved earlier = true → (before.prepared v).Refuses after answer) := by
  intro start before after answer
  have hopen : start.IsOpen := ⟨rfl, rfl, hstore, hinbox⟩
  refine ⟨?_, ?_, ?_⟩
  · intro hsaved hv
    exact ((hopen.after hsaved).visit_of_not_saves hv).1
  · intro hsaved hv
    exact ((hopen.after hsaved).visit_of_saves hv).1
  · intro hsaved
    exact (visit_of_submitted (hopen.submitted_after hsaved) v).1

/-- A look at the state, a submission with two authorization headers, and one more look. -/
theorem one_submission_per_session_of_two_headers :
    let hub : Hub HostRadio := { radio := { networks := [] }, store := .memory {} }
    let start : Portal HostRadio := ⟨hub, { active := true }, .loopback⟩
    let look : Visit := { request := { method := "GET", target := "/status" } }
    let body := "\x7b\"ssid\":\"Home\",\"password\":\"secret123\",\"device_id\":\"dev-1\"," ++
      "\"provisioning_token\":\"tok-1\"\x7d"
    let submission : Visit :=
      { request :=
          { method := "POST"
            target := "/provision"
            headers := [("Accept", "*/*"), ("authorization", "Bearer first"),
              ("Authorization", "Bearer second")]
            body := ⟨[Utf8.encode body], none⟩ } }
    let looked := (start.visit look).1
    let closed := (looked.visit submission).1
    start.Keeps looked (start.visit look).2 ∧
    looked.Accepts closed (looked.visit submission).2
      ⟨"Home", "secret123", "dev-1", "tok-1", some "first", true⟩ ∧
    (closed.prepared look).Refuses (closed.visit look).1 (closed.visit look).2 := by
  intro hub start look body submission looked closed
  have hearlier : start.saves look = false := by decide +kernel
  have hsaves : looked.saves submission = true := by decide +kernel
  obtain ⟨hkeeps, -, -⟩ := one_submission_per_session hub .loopback trivial rfl [] look
  obtain ⟨-, haccepts, -⟩ := one_submission_per_session hub .loopback trivial rfl [look] submission
  obtain ⟨-, -, hrefuses⟩ :=
    one_submission_per_session hub .loopback trivial rfl [look, submission] look
  obtain ⟨r, hr, haccepted⟩ := haccepts (by decide +kernel) hsaves
  have hsubmission : submission.request.submission? =
      some ⟨"Home", "secret123", "dev-1", "tok-1"⟩ := by decide +kernel
  have htoken : submission.request.token? = some "first" := by decide +kernel
  rw [Request.submits_iff hsubmission, htoken] at hr
  subst hr
  exact ⟨hkeeps rfl hearlier, haccepted, hrefuses (by decide +kernel)⟩

end Portal

end Onboarding
