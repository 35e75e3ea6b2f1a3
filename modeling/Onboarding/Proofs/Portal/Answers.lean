import Onboarding.Portal.Http
import Onboarding.Proofs.Store.Refusals

/-!
# What one request does to a session

Of all requests only a submission can change more than the scans: a POST to the path of submissions
whose body arrives and parses (`Request.submission?`). Everything else is answered from what is
there, with a status other than that of a closed session, and without credentials to hand over.

## Main results

* `Request.header?_eq_iff`: a header that is looked up is the first with its name.
* `Request.submits_iff`: what a submission stores is what it asks for.
* `Portal.handle_of_submitted`: a claimed session refuses a request and stays as it is.
* `Portal.handle_of_none`: a request that is no submission only scans.
* `Portal.handle_of_saved`: a submission that the store takes closes the session and is handed over.
* `Portal.handle_of_unsaved`: a submission that the store does not take leaves the session open.
* `Portal.outcome`: these are all outcomes of a request.
* `Portal.saveRecord_of_handle`: on the path of submissions nothing but a saved record succeeds.
-/

namespace Onboarding

namespace Request

/-- The submission that a request makes, if it makes one. -/
def submission? (r : Request) : Option ProvisionRequest :=
  if r.route.1 = "/provision" ∧ r.method = "POST" then
    (r.content.bind ProvisionRequest.parse).toOption
  else none

/-- Elsewhere than on their path there are no submissions. -/
theorem submission_of_path {r : Request} (h : r.route.1 ≠ "/provision") : r.submission? = none :=
  if_neg fun hr => h hr.1

/-- The bearer token of the first authorization header. -/
def token? (r : Request) : Option String :=
  (r.header? "Authorization").bind Bearer.token?

/-- A header with a name, in letters of either case. -/
def IsNamed (name : String) (header : String × String) : Prop :=
  header.1.toList.map Char.toLower = name.toList.map Char.toLower

/-- What the first of the headers with a name holds, if there is one. -/
inductive FirstHeader (name : String) : List (String × String) → Option String → Prop where
  | found {before after : List (String × String)} {n v : String} (hn : IsNamed name (n, v))
      (hbefore : ∀ h ∈ before, ¬IsNamed name h) :
      FirstHeader name (before ++ (n, v) :: after) (some v)
  | absent {headers : List (String × String)} (h : ∀ h ∈ headers, ¬IsNamed name h) :
      FirstHeader name headers none

theorem find?_header_eq_iff {name : String} {headers : List (String × String)}
    {value : Option String} :
    (headers.find? fun h => sameName h.1 name).map (·.2) = value ↔
      FirstHeader name headers value := by
  have hnamed : ∀ h : String × String, sameName h.1 name = true ↔ IsNamed name h :=
    fun h => beq_iff_eq
  constructor
  · rintro rfl
    cases hfind : headers.find? fun h => sameName h.1 name with
    | none =>
        refine .absent fun h hh hname => ?_
        exact List.find?_eq_none.mp hfind h hh ((hnamed h).mpr hname)
    | some h =>
        obtain ⟨hname, before, after, rfl, hbefore⟩ := List.find?_eq_some_iff_append.mp hfind
        refine .found ((hnamed h).mp hname) fun g hg hgname => ?_
        simpa [(hnamed g).mpr hgname] using hbefore g hg
  · intro hfirst
    cases hfirst with
    | @found before after n v hn hbefore =>
        have hfind : ((before ++ (n, v) :: after).find? fun h => sameName h.1 name) =
            some (n, v) := by
          refine List.find?_eq_some_iff_append.mpr ⟨(hnamed _).mpr hn, before, after, rfl, ?_⟩
          intro g hg
          rw [Bool.not_eq_true', Bool.eq_false_iff]
          exact fun hname => hbefore g hg ((hnamed g).mp hname)
        rw [hfind]
        rfl
    | absent h =>
        rw [List.find?_eq_none.mpr fun g hg hname => h g hg ((hnamed g).mp hname)]
        rfl

/-- **A header that is looked up is the first with its name.** -/
theorem header?_eq_iff {r : Request} {name : String} {value : Option String} :
    r.header? name = value ↔ FirstHeader name r.headers value :=
  find?_header_eq_iff

/-- The record that a request asks to be stored: the four fields of its submission, and the bearer
token of its first authorization header. -/
inductive Submits (r : Request) : DeviceRecord → Prop where
  | intro {q : ProvisionRequest} {authorization : Option String} (hq : r.submission? = some q)
      (hauthorization : FirstHeader "Authorization" r.headers authorization) :
      Submits r
        { ssid := q.ssid
          password := q.password
          deviceId := q.deviceId
          provisioningToken := q.provisioningToken
          bearerToken := authorization.bind Bearer.token?
          provisioned := true }

/-- **What a submission stores is what it asks for.** -/
theorem submits_iff {r : Request} {q : ProvisionRequest} (hq : r.submission? = some q)
    {record : DeviceRecord} : r.Submits record ↔ record = q.record r.token? := by
  constructor
  · rintro ⟨hother, hauthorization⟩
    obtain rfl := Option.some.inj (hq.symm.trans hother)
    rw [token?, header?_eq_iff.mpr hauthorization]
    rfl
  · rintro rfl
    exact .intro hq (header?_eq_iff.mp rfl)

end Request

/-- A refusal has the status of a closed session only if it is that refusal. -/
theorem RequestError.status_eq_closed_iff (e : RequestError) : e.status = 503 ↔ e = .closed := by
  cases e <;> simp [status]

/-- No refusal has the status of a success. -/
theorem RequestError.status_ne_success (e : RequestError) : e.status ≠ 200 := by
  cases e <;> simp [status]

/-- A body that does not parse is not refused for a closed session. -/
theorem ProvisionRequest.status_of_parse_error {body : Bytes} {e : RequestError}
    (h : parse body = .error e) : e.status ≠ 503 := by
  rw [Ne, RequestError.status_eq_closed_iff]
  rintro rfl
  rw [parse] at h
  split at h
  · rw [ofJson] at h
    split at h <;> simp at h
  · simp at h

/-- A body that does not arrive is not refused for a closed session. -/
theorem Request.status_of_content_error {r : Request} {e : RequestError}
    (h : r.content = .error e) : e.status ≠ 503 := by
  rw [Request.content] at h
  cases hb : (r.body.receive r.declaredLength).1 with
  | error why =>
      rw [hb] at h
      obtain rfl : RequestError.ofBody why = e := Except.error.inj h
      simp [RequestError.ofBody, RequestError.status]
  | ok content =>
      rw [hb] at h
      cases h

/-- An answer that neither refuses for a closed session nor has credentials to hand over. -/
def Response.IsPlain (a : Response) : Prop :=
  a.status ≠ 503 ∧ a.followUp = none

namespace Response

theorem isPlain_ok (body : Json) : (ok body).IsPlain :=
  ⟨by simp [ok], rfl⟩

theorem isPlain_cacheBusy : cacheBusy.IsPlain :=
  ⟨by decide, rfl⟩

theorem isPlain_scanFailed : scanFailed.IsPlain :=
  ⟨by decide, rfl⟩

theorem isPlain_wrongMethod (allowed : String) : (wrongMethod allowed).IsPlain :=
  ⟨by simp [wrongMethod], rfl⟩

theorem isPlain_notFound : notFound.IsPlain :=
  ⟨by decide, rfl⟩

end Response

namespace Portal

variable {ρ : Type}

/-- A portal that differs from another in its radio, its scanned networks, and whether a scan is
still running. -/
def ScansOnly (p q : Portal ρ) : Prop :=
  ∃ radio cache scanning,
    q = { p with
            hub := { p.hub with radio, cache }
            session := { p.session with scanning } }

theorem ScansOnly.rfl (p : Portal ρ) : p.ScansOnly p :=
  ⟨p.hub.radio, p.hub.cache, p.session.scanning, Eq.refl p⟩

/-! ### Answers from what is there -/

theorem isPlain_listing (s : Snapshot) (fresh : Bool) : (listing s fresh).IsPlain := by
  rw [listing]
  split
  · exact Response.isPlain_ok _
  · exact Response.isPlain_scanFailed

theorem isPlain_listed (p : Portal ρ) (fresh : Bool) : (p.listed fresh).IsPlain := by
  rw [listed]
  split
  · exact isPlain_listing _ _
  · exact Response.isPlain_cacheBusy

theorem isPlain_status (p : Portal ρ) : p.status.IsPlain := by
  rw [status]
  split <;> exact Response.isPlain_ok _

/-- A scan that ends in the background changes the scans and nothing else. -/
theorem finishScan_scansOnly (p : Portal ρ) (reply : ScanReply) :
    p.ScansOnly (p.finishScan reply) := by
  rw [finishScan]
  split
  · exact ⟨p.hub.radio, _, false, Eq.refl _⟩
  · exact .rfl p

variable [Radio ρ]

theorem refresh_scansOnly (p : Portal ρ) : p.ScansOnly p.refresh.1 := by
  rw [refresh]
  split
  · exact .rfl p
  · exact ⟨_, _, _, Eq.refl _⟩

theorem scan_scansOnly (p : Portal ρ) (wantsFresh : Bool) :
    p.ScansOnly (p.scan wantsFresh).1 := by
  rw [scan]
  split
  · exact p.refresh_scansOnly
  · split
    · exact .rfl p
    · split
      · exact .rfl p
      · exact p.refresh_scansOnly

theorem isPlain_scan (p : Portal ρ) (wantsFresh : Bool) : (p.scan wantsFresh).2.IsPlain := by
  rw [scan]
  split
  · exact isPlain_listed _ _
  · split
    · exact Response.isPlain_cacheBusy
    · split
      · exact isPlain_listing _ _
      · exact isPlain_listed _ _

/-! ### Submissions -/

omit [Radio ρ] in
/-- A submission that cannot be read is refused, and nothing changes. -/
theorem submit_of_error {p : Portal ρ} {r : Request} {e : RequestError}
    (h : r.content.bind ProvisionRequest.parse = .error e) (authorization : Option String) :
    (p.submit r.content authorization).1 = p ∧
      (p.submit r.content authorization).2.IsPlain := by
  have hstatus : e.status ≠ 503 := by
    cases hc : r.content with
    | error e' =>
        rw [hc] at h
        obtain rfl : e' = e := by simpa [Except.bind] using h
        exact Request.status_of_content_error hc
    | ok body =>
        rw [hc] at h
        exact ProvisionRequest.status_of_parse_error h
  rw [submit, h]
  exact ⟨Eq.refl p, hstatus, Eq.refl none⟩

/-- A submission goes to the store. -/
theorem dispatch_of_submission {p : Portal ρ} {r : Request} {q : ProvisionRequest}
    (h : r.submission? = some q) : p.dispatch r = p.accept q (r.header? "Authorization") := by
  rw [Request.submission?] at h
  split at h
  · rename_i hr
    obtain ⟨hpath, hmethod⟩ := hr
    cases hc : r.content.bind ProvisionRequest.parse with
    | error e => simp [hc, Except.toOption] at h
    | ok q' =>
        obtain rfl : q' = q := by simpa [hc, Except.toOption] using h
        simp [dispatch, hpath, hmethod, submit, hc]
  · simp at h

/-- A request that is no submission only scans, and its answer is plain. -/
theorem dispatch_of_none {p : Portal ρ} {r : Request} (h : r.submission? = none) :
    p.ScansOnly (p.dispatch r).1 ∧ (p.dispatch r).2.IsPlain := by
  rw [dispatch]
  split
  rename_i path query hroute
  have hpath : r.route.1 = path := by rw [hroute]
  split
  · split
    · exact ⟨p.scan_scansOnly _, p.isPlain_scan _⟩
    · exact ⟨.rfl p, Response.isPlain_wrongMethod _⟩
  · split
    · rename_i hp
      split
      · rename_i hm
        rw [Request.submission?, if_pos ⟨hpath.trans hp, hm⟩] at h
        cases hc : r.content.bind ProvisionRequest.parse with
        | ok q => simp [hc, Except.toOption] at h
        | error e =>
            obtain ⟨hp', hplain⟩ := submit_of_error (p := p) hc (r.header? "Authorization")
            exact ⟨hp'.symm ▸ .rfl p, hplain⟩
      · exact ⟨.rfl p, Response.isPlain_wrongMethod _⟩
    · split
      · split
        · exact ⟨.rfl p, p.isPlain_status⟩
        · exact ⟨.rfl p, Response.isPlain_wrongMethod _⟩
      · exact ⟨.rfl p, Response.isPlain_notFound⟩

/-- On the path of submissions only a submission can succeed. -/
theorem status_dispatch_of_none {p : Portal ρ} {r : Request} (hpath : r.route.1 = "/provision")
    (h : r.submission? = none) : (p.dispatch r).2.status ≠ 200 := by
  have hscan : r.route.1 ≠ "/local-wifi" := by
    rw [hpath]
    decide
  by_cases hm : r.method = "POST"
  · rw [Request.submission?, if_pos ⟨hpath, hm⟩] at h
    cases hc : r.content.bind ProvisionRequest.parse with
    | ok q => simp [hc, Except.toOption] at h
    | error e =>
        have hdispatch : (p.dispatch r).2 = .refusal e := by
          simp only [dispatch, if_neg hscan, if_pos hpath, if_pos hm, submit, hc]
        rw [hdispatch]
        exact e.status_ne_success
  · have hdispatch : (p.dispatch r).2 = .wrongMethod "POST" := by
      simp only [dispatch, if_neg hscan, if_pos hpath, if_neg hm]
    rw [hdispatch]
    decide

/-! ### Requests -/

/-- A claimed session refuses every request and stays as it is. -/
theorem handle_of_submitted {p : Portal ρ} (h : p.session.submitted = true) (r : Request) :
    p.handle r = (p, .refusal .closed) := by
  rw [handle, if_pos h]

/-- A request that is no submission leaves nothing to do once it is answered. -/
theorem handle_eq_dispatch {p : Portal ρ} {r : Request} (hs : p.session.submitted = false)
    (h : r.submission? = none) : p.handle r = p.dispatch r := by
  have hafter : (p.dispatch r).1.afterwards (p.dispatch r).2 = (p.dispatch r).1 := by
    rw [afterwards, (dispatch_of_none h).2.2]
  simp only [handle, hs, Bool.false_eq_true, if_false, hafter]

/-- **A request that is no submission only scans**, and its answer is plain. -/
theorem handle_of_none {p : Portal ρ} {r : Request} (hs : p.session.submitted = false)
    (h : r.submission? = none) :
    p.ScansOnly (p.handle r).1 ∧ (p.handle r).2.IsPlain := by
  rw [handle_eq_dispatch hs h]
  exact dispatch_of_none h

/-- **A submission that the store takes** is handed over and closes the session. -/
theorem handle_of_saved {p : Portal ρ} {r : Request} {q : ProvisionRequest} {store : Store}
    (hs : p.session.submitted = false) (h : r.submission? = some q)
    (hsave : p.hub.store.saveRecord (q.record r.token?) = (store, .ok ())) :
    p.handle r =
      ({ p with
          hub := { p.hub with store, inbox := p.hub.inbox.push [.submitted q.credentials] }
          session := { p.session with submitted := true, active := false } },
        .saved q.credentials) := by
  simp only [Request.token?] at hsave
  simp [handle, hs, dispatch_of_submission h, accept, Hub.withStore, hsave, afterwards,
    Response.saved, complete, setActive, Hub.push]

/-- **A submission that the store does not take** is answered so, and the session stays open. -/
theorem handle_of_unsaved {p : Portal ρ} {r : Request} {q : ProvisionRequest} {store : Store}
    {e : StoreError} (hs : p.session.submitted = false) (h : r.submission? = some q)
    (hsave : p.hub.store.saveRecord (q.record r.token?) = (store, .error e)) :
    p.handle r = ({ p with hub := { p.hub with store } }, .refusal .saveFailed) := by
  simp only [Request.token?] at hsave
  simp [handle, hs, dispatch_of_submission h, accept, Hub.withStore, hsave, afterwards,
    Response.refusal]

/-! ### The outcomes of a request -/

/-- What can become of a request, with all that it does. -/
inductive Outcome (p : Portal ρ) (r : Request) : Prop
  /-- The session was claimed before. -/
  | refused (claimed : p.session.submitted = true) (handle_eq : p.handle r = (p, .refusal .closed))
  /-- The request is no submission. -/
  | plain (unclaimed : p.session.submitted = false) (submission : r.submission? = none)
      (scans : p.ScansOnly (p.handle r).1) (answer : (p.handle r).2.IsPlain)
  /-- The store takes the submission. -/
  | saved (q : ProvisionRequest) (store : Store) (unclaimed : p.session.submitted = false)
      (submission : r.submission? = some q)
      (save : p.hub.store.saveRecord (q.record r.token?) = (store, .ok ()))
      (handle_eq : p.handle r =
        ({ p with
            hub := { p.hub with store, inbox := p.hub.inbox.push [.submitted q.credentials] }
            session := { p.session with submitted := true, active := false } },
          .saved q.credentials))
  /-- The store does not take the submission. -/
  | unsaved (q : ProvisionRequest) (store : Store) (e : StoreError)
      (unclaimed : p.session.submitted = false) (submission : r.submission? = some q)
      (save : p.hub.store.saveRecord (q.record r.token?) = (store, .error e))
      (handle_eq : p.handle r = ({ p with hub := { p.hub with store } }, .refusal .saveFailed))

/-- **Every request has one of these outcomes.** -/
theorem outcome (p : Portal ρ) (r : Request) : p.Outcome r := by
  cases hs : p.session.submitted with
  | true => exact .refused hs (handle_of_submitted hs r)
  | false =>
      cases hq : r.submission? with
      | none =>
          obtain ⟨hscan, hplain⟩ := handle_of_none hs hq
          exact .plain hs hq hscan hplain
      | some q =>
          cases hsave : p.hub.store.saveRecord (q.record r.token?) with
          | mk store result =>
              cases result with
              | error e => exact .unsaved q store e hs hq hsave (handle_of_unsaved hs hq hsave)
              | ok _ => exact .saved q store hs hq hsave (handle_of_saved hs hq hsave)

/-- **A success on the path of submissions is a record that was saved.** -/
theorem saveRecord_of_handle {p : Portal ρ} {r : Request} (hpath : r.route.1 = "/provision")
    (h : (p.handle r).2.status = 200) :
    ∃ q, r.submission? = some q ∧
      p.hub.store.saveRecord (q.record r.token?) = ((p.handle r).1.hub.store, .ok ()) := by
  cases p.outcome r with
  | refused _ handle_eq =>
      rw [handle_eq] at h
      exact absurd h RequestError.closed.status_ne_success
  | plain unclaimed submission =>
      rw [handle_eq_dispatch unclaimed submission] at h
      exact absurd h (status_dispatch_of_none hpath submission)
  | saved q _ _ submission save handle_eq =>
      rw [handle_eq]
      exact ⟨q, submission, save⟩
  | unsaved _ _ _ _ _ _ handle_eq =>
      rw [handle_eq] at h
      exact absurd h RequestError.saveFailed.status_ne_success

/-- No request changes the connectivity. -/
theorem connectivity_handle (p : Portal ρ) (r : Request) :
    (p.handle r).1.hub.connectivity = p.hub.connectivity := by
  cases p.outcome r with
  | refused _ handle_eq | saved _ _ _ _ _ handle_eq | unsaved _ _ _ _ _ _ handle_eq =>
      rw [handle_eq]
  | plain _ _ scans =>
      obtain ⟨radio, cache, scanning, hscan⟩ := scans
      rw [hscan]

/-! ### What the radio sees of a request -/

/-- A radio that is as it was, or has scanned once. -/
def ScansAtMost (r s : ρ) : Prop :=
  s = r ∨ s = (Radio.scan r).1

theorem scansAtMost_refresh (p : Portal ρ) : ScansAtMost p.hub.radio p.refresh.1.hub.radio := by
  rw [refresh]
  split
  · exact .inl rfl
  · exact .inr rfl

theorem scansAtMost_scan (p : Portal ρ) (wantsFresh : Bool) :
    ScansAtMost p.hub.radio (p.scan wantsFresh).1.hub.radio := by
  rw [scan]
  split
  · exact p.scansAtMost_refresh
  · split
    · exact .inl rfl
    · split
      · exact .inl rfl
      · exact p.scansAtMost_refresh

omit [Radio ρ] in
theorem radio_submit (p : Portal ρ) (body : Except RequestError Bytes)
    (authorization : Option String) :
    (p.submit body authorization).1.hub.radio = p.hub.radio := by
  rw [submit]
  split
  · rw [accept]
    split
    · rfl
    · dsimp only [Hub.withStore]
      split <;> rename_i heq <;> obtain ⟨rfl, -⟩ := Prod.mk.inj heq <;> rfl
  · rfl

theorem scansAtMost_dispatch (p : Portal ρ) (r : Request) :
    ScansAtMost p.hub.radio (p.dispatch r).1.hub.radio := by
  rw [dispatch]
  split
  split
  · split
    · exact p.scansAtMost_scan _
    · exact .inl rfl
  · split
    · split
      · exact .inl (p.radio_submit _ _)
      · exact .inl rfl
    · split
      · split <;> exact .inl rfl
      · exact .inl rfl

/-- A request makes the radio scan once at most. -/
theorem scansAtMost_handle (p : Portal ρ) (r : Request) :
    ScansAtMost p.hub.radio (p.handle r).1.hub.radio := by
  rw [handle]
  split
  · exact .inl rfl
  · have hafter : ((p.dispatch r).1.afterwards (p.dispatch r).2).hub.radio =
        (p.dispatch r).1.hub.radio := by
      rw [afterwards]
      split <;> rfl
    dsimp only
    rw [hafter]
    exact p.scansAtMost_dispatch r

/-- A session that is not claimed tells its state to whoever asks for it. -/
theorem handle_of_status {p : Portal ρ} {r : Request} (hs : p.session.submitted = false)
    (hmethod : r.method = "GET") (hpath : r.route.1 = "/status") :
    p.handle r = (p, p.status) := by
  have hscan : r.route.1 ≠ "/local-wifi" := by
    rw [hpath]
    decide
  have hsubmit : r.route.1 ≠ "/provision" := by
    rw [hpath]
    decide
  rw [handle_eq_dispatch hs (Request.submission_of_path hsubmit)]
  simp only [dispatch, if_neg hscan, if_neg hsubmit, if_pos hpath, if_pos hmethod]

end Portal

end Onboarding
