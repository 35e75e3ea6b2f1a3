import Mathlib.Data.List.Forall2
import Onboarding.Proofs.Portal.Answers
import Onboarding.Radio.Scripted

/-!
# A portal keeps its secrets

Clients submit passwords and tokens, and the store keeps them. Nobody is shown any of it. That is a
statement about two courses of a session: where the radio, the cache and the connectivity of both
are the same and the store takes the same submissions, all answers are the same, whatever is in the
store and whatever is submitted.

A session that looks like another (`Portal.LooksLike`) goes on to do so. Of a submission nothing but
the verdict of the store matters (`Portal.handle_of_verdict`); everything else is answered without a
look at the store.

## Main results

* `Portal.LooksLike.scan`, `Portal.LooksLike.dispatch`: answers that no store has a part in.
* `Portal.LooksLike.handle`: one request.
* `Portal.secrets_unseen`: whole sessions, and the debug displays.
-/

namespace Onboarding

/-! ### What clients can tell apart -/

/-- How the coming scans of a radio end, if nothing else happens to it. -/
def Radio.replies {ρ : Type} [Radio ρ] (r : ρ) : Nat → ScanReply
  | 0 => (Radio.scan r).2
  | n + 1 => replies (Radio.scan r).1 n

/-- What a client is shown of an answer: the status, the body, and the method to use instead. -/
def Response.shown (a : Response) : Nat × Json × Option String :=
  (a.status, a.body, a.allow)

/-- Two devices that look the same to clients, with any stores and queues. -/
structure Hub.LooksLike {ρ : Type} [Radio ρ] (h k : Hub ρ) : Prop where
  replies_eq : Radio.replies k.radio = Radio.replies h.radio
  cache_eq : k.cache = h.cache
  connectivity_eq : k.connectivity = h.connectivity

/-- Two sessions that look the same to clients. -/
structure Portal.LooksLike {ρ : Type} [Radio ρ] (p q : Portal ρ) : Prop where
  hub : p.hub.LooksLike q.hub
  session_eq : q.session = p.session
  address_eq : q.address = p.address

/-- Two requests with the same content, or with submissions of which any text may differ. Nothing is
said of their headers. -/
structure Request.LooksLike (r t : Request) : Prop where
  method_eq : t.method = r.method
  target_eq : t.target = r.target
  content : t.content = r.content ∨
    (∃ a, r.content.bind ProvisionRequest.parse = .ok a) ∧
      ∃ b, t.content.bind ProvisionRequest.parse = .ok b

namespace Request.LooksLike

variable {r t : Request}

theorem route_eq (h : r.LooksLike t) : t.route = r.route := by
  rw [route, route, h.target_eq]

/-- Either the same is wrong with the contents of both, or nothing is. -/
theorem parsed (h : r.LooksLike t) :
    (∃ e, r.content.bind ProvisionRequest.parse = .error e ∧
      t.content.bind ProvisionRequest.parse = .error e) ∨
    ∃ a b, r.content.bind ProvisionRequest.parse = .ok a ∧
      t.content.bind ProvisionRequest.parse = .ok b := by
  rcases h.content with hsame | ⟨⟨a, ha⟩, b, hb⟩
  · rw [hsame]
    cases hparse : r.content.bind ProvisionRequest.parse with
    | error e => exact .inl ⟨e, rfl, rfl⟩
    | ok a => exact .inr ⟨a, a, rfl, rfl⟩
  · exact .inr ⟨a, b, ha, hb⟩

theorem isSome_submission (h : r.LooksLike t) :
    t.submission?.isSome = r.submission?.isSome := by
  rw [submission?, submission?, h.route_eq, h.method_eq]
  split
  · rcases h.parsed with ⟨e, hr, ht⟩ | ⟨a, b, hr, ht⟩
    · rw [hr, ht]
    · rw [hr, ht]
      rfl
  · rfl

end Request.LooksLike

/-- Something that happens to a session. -/
inductive SessionTurn (ρ : Type) where
  /-- A client makes a request. -/
  | request (r : Request)
  /-- A scan that nobody waits for any more comes to its end. -/
  | scanned (reply : ScanReply)
  /-- The host changes what a portal does not own. -/
  | meanwhile (hub : Hub ρ)

/-- The same happens to both sessions, as far as clients can tell. -/
inductive SessionTurn.LooksLike {ρ : Type} [Radio ρ] : SessionTurn ρ → SessionTurn ρ → Prop
  | request {r t : Request} (h : r.LooksLike t) : LooksLike (.request r) (.request t)
  | scanned (reply : ScanReply) : LooksLike (.scanned reply) (.scanned reply)
  | meanwhile {h k : Hub ρ} (hk : h.LooksLike k) : LooksLike (.meanwhile h) (.meanwhile k)

namespace Portal

variable {ρ : Type} [Radio ρ] {p q : Portal ρ} {r t : Request}

namespace LooksLike

/-! ### Answers without the store -/

/-- A scan makes both see the same networks. -/
theorem refresh (h : p.LooksLike q) :
    p.refresh.1.LooksLike q.refresh.1 ∧ q.refresh.2 = p.refresh.2 := by
  have hreply : (Radio.scan q.hub.radio).2 = (Radio.scan p.hub.radio).2 :=
    congrFun h.hub.replies_eq 0
  have hlater : Radio.replies (Radio.scan q.hub.radio).1 =
      Radio.replies (Radio.scan p.hub.radio).1 :=
    funext fun n => congrFun h.hub.replies_eq (n + 1)
  simp only [Portal.refresh, h.session_eq, h.hub.cache_eq, hreply]
  split
  · exact ⟨h, rfl⟩
  · exact ⟨⟨⟨hlater, rfl, h.hub.connectivity_eq⟩, rfl, h.address_eq⟩, rfl⟩

theorem finishScan (h : p.LooksLike q) (reply : ScanReply) :
    (p.finishScan reply).LooksLike (q.finishScan reply) := by
  simp only [Portal.finishScan, h.session_eq, h.hub.cache_eq]
  split
  · exact ⟨⟨h.hub.replies_eq, rfl, h.hub.connectivity_eq⟩, rfl, h.address_eq⟩
  · exact h

theorem listed_eq (h : p.LooksLike q) (fresh : Bool) : q.listed fresh = p.listed fresh := by
  rw [listed, listed, h.hub.cache_eq]

/-- The networks around are no secret, and show none. -/
theorem scan (h : p.LooksLike q) (wantsFresh : Bool) :
    (p.scan wantsFresh).1.LooksLike (q.scan wantsFresh).1 ∧
      (q.scan wantsFresh).2 = (p.scan wantsFresh).2 := by
  obtain ⟨hrefresh, hfresh⟩ := h.refresh
  have hlisted : q.refresh.1.listed q.refresh.2 = p.refresh.1.listed p.refresh.2 := by
    rw [hrefresh.listed_eq, hfresh]
  rw [Portal.scan, Portal.scan, h.hub.cache_eq]
  split
  · exact ⟨hrefresh, hlisted⟩
  · split
    · exact ⟨h, rfl⟩
    · split
      · exact ⟨h, rfl⟩
      · exact ⟨hrefresh, hlisted⟩

theorem status_eq (h : p.LooksLike q) : q.status = p.status := by
  simp only [status, h.hub.connectivity_eq, h.session_eq, h.address_eq]

/-- A request that is no submission is answered alike. -/
theorem dispatch (h : p.LooksLike q) (hr : r.LooksLike t) (hnone : r.submission? = none) :
    (p.dispatch r).1.LooksLike (q.dispatch t).1 ∧ (q.dispatch t).2 = (p.dispatch r).2 := by
  simp only [Portal.dispatch, hr.route_eq, hr.method_eq]
  split
  · split
    · exact h.scan _
    · exact ⟨h, rfl⟩
  · split
    · rename_i hpath
      split
      · rename_i hmethod
        rcases hr.parsed with ⟨e, hcontent, hcontent'⟩ | ⟨a, b, hcontent, -⟩
        · rw [submit, submit, hcontent, hcontent']
          exact ⟨h, rfl⟩
        · -- with a content that parses the request would be a submission
          rw [Request.submission?, if_pos ⟨hpath, hmethod⟩, hcontent] at hnone
          cases hnone
      · exact ⟨h, rfl⟩
    · split
      · split
        · exact ⟨h, h.status_eq⟩
        · exact ⟨h, rfl⟩
      · exact ⟨h, rfl⟩

end LooksLike

/-! ### The verdict of the store -/

/-- Whether the store takes the submission of a request, if the request gets that far. -/
def verdict? (p : Portal ρ) (r : Request) : Option Bool :=
  if p.session.submitted then none
  else r.submission?.map fun a => (p.hub.store.saveRecord (a.record r.token?)).2.isOk

/-- A session after the verdict of the store. -/
def judged (x : Session) (taken : Bool) : Session :=
  if taken then { x with submitted := true, active := false } else x

/-- What a client is shown of the verdict of the store. -/
def shownVerdict (taken : Bool) : Nat × Json × Option String :=
  if taken then
    (200, .ofMembers [("status", .text "ok"), ("message", .text "Credentials saved")], none)
  else (500, .ofMembers [("error", .text "save_failed")], none)

/-- **Of a submission nothing but the verdict of the store matters**, to the client as to the
session. -/
theorem handle_of_verdict {taken : Bool} (h : p.verdict? r = some taken) :
    (∃ store inbox, (p.handle r).1 =
      { p with
          hub := { p.hub with store, inbox }
          session := judged p.session taken }) ∧
      (p.handle r).2.shown = shownVerdict taken := by
  cases p.outcome r with
  | refused claimed => simp [verdict?, claimed] at h
  | plain unclaimed submission => simp [verdict?, unclaimed, submission] at h
  | saved _ store unclaimed submission save handle_eq =>
      obtain rfl : true = taken := by
        simpa [verdict?, unclaimed, submission, save, Except.isOk, Except.toBool] using h
      rw [handle_eq]
      exact ⟨⟨store, _, rfl⟩, rfl⟩
  | unsaved _ store _ unclaimed submission save handle_eq =>
      obtain rfl : false = taken := by
        simpa [verdict?, unclaimed, submission, save, Except.isOk, Except.toBool] using h
      rw [handle_eq]
      exact ⟨⟨store, p.hub.inbox, rfl⟩, rfl⟩

/-! ### One request -/

namespace LooksLike

/-- The store is asked for a verdict in both or in neither. -/
theorem isSome_verdict (h : p.LooksLike q) (hr : r.LooksLike t) :
    (q.verdict? t).isSome = (p.verdict? r).isSome := by
  rw [verdict?, verdict?, h.session_eq]
  split
  · rfl
  · rw [Option.isSome_map, Option.isSome_map, hr.isSome_submission]

/-- **A request is answered alike**, if the store says the same to a submission. -/
theorem handle (h : p.LooksLike q) (hr : r.LooksLike t) (hverdict : p.verdict? r = q.verdict? t) :
    (p.handle r).1.LooksLike (q.handle t).1 ∧ (q.handle t).2.shown = (p.handle r).2.shown := by
  cases hp : p.verdict? r with
  | some taken =>
      obtain ⟨⟨store, inbox, hafter⟩, hshown⟩ := handle_of_verdict hp
      obtain ⟨⟨store', inbox', hafter'⟩, hshown'⟩ := handle_of_verdict (hverdict ▸ hp)
      rw [hafter, hafter', hshown, hshown', h.session_eq]
      exact ⟨⟨⟨h.hub.replies_eq, h.hub.cache_eq, h.hub.connectivity_eq⟩, rfl, h.address_eq⟩, rfl⟩
  | none =>
      cases hclaim : p.session.submitted with
      | true =>
          have hclaim' : q.session.submitted = true := by rw [h.session_eq, hclaim]
          rw [handle_of_submitted hclaim, handle_of_submitted hclaim']
          exact ⟨h, rfl⟩
      | false =>
          have hclaim' : q.session.submitted = false := by rw [h.session_eq, hclaim]
          have hnone : r.submission? = none := by simpa [verdict?, hclaim] using hp
          have hnone' : t.submission? = none := by
            simpa [hnone] using hr.isSome_submission
          rw [handle_eq_dispatch hclaim hnone, handle_eq_dispatch hclaim' hnone']
          obtain ⟨hlike, hanswer⟩ := h.dispatch hr hnone
          exact ⟨hlike, congrArg Response.shown hanswer⟩

end LooksLike

/-! ### Sessions -/

/-- The answers to the requests of a session. -/
def answers (p : Portal ρ) : List (SessionTurn ρ) → List Response
  | [] => []
  | .request r :: hs => (p.handle r).2 :: (p.handle r).1.answers hs
  | .scanned reply :: hs => (p.finishScan reply).answers hs
  | .meanwhile hub :: hs => answers { p with hub } hs

/-- What the store says to the submissions of a session. -/
def verdicts (p : Portal ρ) : List (SessionTurn ρ) → List Bool
  | [] => []
  | .request r :: hs => (p.verdict? r).toList ++ (p.handle r).1.verdicts hs
  | .scanned reply :: hs => (p.finishScan reply).verdicts hs
  | .meanwhile hub :: hs => verdicts { p with hub } hs

/-- **Sessions that look alike are answered alike**, as long as their stores say the same. -/
theorem LooksLike.shown_answers (h : p.LooksLike q) {hs ks : List (SessionTurn ρ)}
    (hsame : List.Forall₂ SessionTurn.LooksLike hs ks) (hverdicts : p.verdicts hs = q.verdicts ks) :
    (p.answers hs).map Response.shown = (q.answers ks).map Response.shown := by
  induction hsame generalizing p q with
  | nil => rfl
  | cons hhead htail ih =>
      cases hhead with
      | @request r t hr =>
          -- both stores are asked or neither is, so the verdicts to come are the same as well
          have hlength : (p.verdict? r).toList.length = (q.verdict? t).toList.length := by
            rw [Option.length_toList, Option.length_toList, h.isSome_verdict hr]
          obtain ⟨hverdict, hlater⟩ := List.append_inj hverdicts hlength
          have hsaid : p.verdict? r = q.verdict? t := by
            simpa using congrArg List.head? hverdict
          obtain ⟨hlike, hshown⟩ := h.handle hr hsaid
          rw [answers, answers, List.map_cons, List.map_cons, hshown, ih hlike hlater]
      | scanned reply => exact ih (h.finishScan reply) hverdicts
      | meanwhile hk => exact ih ⟨hk, h.session_eq, h.address_eq⟩ hverdicts

/-- **Nobody is shown a secret.** Sessions that look alike, with stores that say the same, show the
same in all their answers, and the debug displays of two values are the same if they agree on the
network, the device, the flag, and whether there is a bearer token. -/
theorem secrets_unseen :
    (∀ (ρ : Type) [Radio ρ] (p q : Portal ρ) (hs ks : List (SessionTurn ρ)), p.LooksLike q →
      List.Forall₂ SessionTurn.LooksLike hs ks → p.verdicts hs = q.verdicts ks →
        (p.answers hs).map Response.shown = (q.answers ks).map Response.shown) ∧
    (∀ a b : Credentials, a.ssid = b.ssid → a.debugText = b.debugText) ∧
    (∀ a b : DeviceRecord, a.ssid = b.ssid → a.deviceId = b.deviceId →
      a.provisioned = b.provisioned → a.bearerToken.isSome = b.bearerToken.isSome →
        a.debugText = b.debugText) ∧
    ∀ a b : ProvisionRequest, a.ssid = b.ssid → a.deviceId = b.deviceId →
      a.debugText = b.debugText := by
  refine ⟨?_, ?_, ?_, ?_⟩
  · intro ρ _ p q hs ks h hsame hverdicts
    exact h.shown_answers hsame hverdicts
  · intro a b hssid
    unfold Credentials.debugText
    rw [hssid]
  · intro a b hssid hdevice hflag hbearer
    unfold DeviceRecord.debugText
    rw [hssid, hdevice, hflag, hbearer]
  · intro a b hssid hdevice
    unfold ProvisionRequest.debugText
    rw [hssid, hdevice]

/-- Two stores with different values refuse a submission once. The clients submit different
passwords and tokens, one of them without a bearer token, and see the same. -/
theorem secrets_unseen_of_retry :
    let portal (values : Table StoredValue) : Portal ScriptedRadio :=
      ⟨{ radio := { networks := [] }
         store := .memory { values, faults := { coming := [true] } } },
        { active := true }, .loopback⟩
    let submission (password token : String) (headers : List (String × String)) : Request :=
      { method := "POST", target := "/provision", headers,
        body := .whole (Utf8.encode ("\x7b\"ssid\":\"Home\",\"password\":\"" ++ password ++
          "\",\"device_id\":\"d1\",\"provisioning_token\":\"" ++ token ++ "\"\x7d")) }
    let look : Request := { method := "GET", target := "/status" }
    let hers := submission "hunter22" "t1" [("Authorization", "Bearer abc")]
    let his := submission "" "other" []
    let p := portal .empty
    let q := portal (.ofList [("wifi_password", .text "secret"), ("provisioned", .flag true)])
    let hs := [hers, look, hers, look].map SessionTurn.request
    let ks := [his, look, his, look].map SessionTurn.request
    (p.answers hs).map Response.status = [500, 200, 200, 503] ∧
      (p.answers hs).map Response.shown = (q.answers ks).map Response.shown := by
  intro portal submission look hers his p q hs ks
  have hlike : p.LooksLike q := ⟨⟨rfl, rfl, rfl⟩, rfl, rfl⟩
  have hsubmit : hers.LooksLike his :=
    ⟨rfl, rfl, .inr ⟨⟨⟨"Home", "hunter22", "d1", "t1"⟩, by decide +kernel⟩,
      ⟨"Home", "", "d1", "other"⟩, by decide +kernel⟩⟩
  have hlook : look.LooksLike look := ⟨rfl, rfl, .inl rfl⟩
  have hsame : List.Forall₂ SessionTurn.LooksLike hs ks :=
    .cons (.request hsubmit) (.cons (.request hlook)
      (.cons (.request hsubmit) (.cons (.request hlook) .nil)))
  have hverdicts : p.verdicts hs = q.verdicts ks := by decide +kernel
  exact ⟨by decide +kernel, secrets_unseen.1 _ p q hs ks hlike hsame hverdicts⟩

end Portal

end Onboarding
