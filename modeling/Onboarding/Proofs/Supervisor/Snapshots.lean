import Onboarding.Proofs.Portal.Scans
import Onboarding.Proofs.Radio.Survey
import Onboarding.Proofs.Supervisor.Agreement

/-!
# What becomes of a session's snapshot

A session begins with a scan, and whatever ends it forgets the snapshot. A scan that a client asked
for may outlive its wait, though, and it may outlive the session: then it is left behind, and its
networks are stored when it ends, whoever is served by then.

`Supervisor.Surveyed` are the supervisors that come to be in this way, each with the number of scans
that were left behind and are still running. For all of them the snapshot is accounted for by the
survey of the radio: without a session it can only come from a scan that was overdue.

## Main results

* `Supervisor.Accounted.startProvisioning`, `Supervisor.Accounted.handle`,
  `Supervisor.Accounted.perform`: every call keeps the snapshot accounted for.
* `Supervisor.Surveyed.accounted`: so it is after any calls.
* `Supervisor.snapshot_of_surveyed`: whose networks the snapshot holds and clients are listed.
-/

namespace Onboarding

namespace Supervisor

variable {ρ : Type}

/-- The survey of the radio. -/
def survey (s : Supervisor (SurveyRadio ρ)) : List SurveyNote :=
  s.hub.radio.survey

/-- The snapshot of a supervisor is accounted for by the survey. -/
def Accounted (s : Supervisor (SurveyRadio ρ)) : Prop :=
  s.hub.cache.snapshot.Accounted s.survey s.session.isSome

namespace Accounted

variable {s : Supervisor (SurveyRadio ρ)}

/-! ### Operations -/

/-- Once the portal is closed, only what was overdue can be left. -/
theorem stopProvisioning (hs : s.Accounted) :
    s.stopProvisioning.hub.cache.snapshot.Accounted s.stopProvisioning.survey false := by
  rw [Supervisor.stopProvisioning]
  split
  · exact .empty _ _
  · rename_i hnone
    rwa [Accounted, hnone] at hs

variable [Radio ρ]

/-- A session that opens takes over the snapshot, and a port that is taken leaves none. -/
theorem openSession (h : s.hub.cache.snapshot.Accounted s.survey true) :
    s.openSession.1.Accounted := by
  rw [Supervisor.openSession]
  dsimp only
  split
  · exact .empty _ _
  · exact h

/-- The scan that opens a session leaves its networks, or what was there. -/
theorem refreshCache (h : s.hub.cache.snapshot.Accounted s.survey false) :
    s.hub.refreshCache.1.cache.snapshot.Accounted s.hub.refreshCache.1.radio.survey true :=
  (h.of_closed true).store_scanned rfl _

/-- **Opening the portal keeps the snapshot accounted for**, whatever fails on the way. -/
theorem startProvisioning (hs : s.Accounted) : s.startProvisioning.1.Accounted := by
  have hannounced : s.announced.hub.cache.snapshot.Accounted s.announced.survey false := by
    have hsurvey : s.announced.survey = s.stopProvisioning.survey ++ [.opened] := rfl
    rw [hsurvey]
    exact hs.stopProvisioning.concat_of_closed .opened
  cases hlisten : s.isListening with
  | true =>
      rw [startProvisioning_of_listening hlisten]
      exact hs
  | false =>
      cases hresult : (Radio.startAccessPoint s.accessPoint s.hub.radio).result with
      | error e =>
          rw [startProvisioning_of_error hlisten hresult]
          exact hannounced.of_closed _
      | ok _ =>
          rw [startProvisioning_of_ok hlisten hresult]
          exact openSession (refreshCache hannounced)

/-- Joining a network leaves the radio's survey alone. -/
theorem connectStation (hs : s.Accounted) (c : Credentials) : (s.connectStation c).1.Accounted := by
  have hstop := hs.stopProvisioning
  rw [Supervisor.connectStation]
  split <;> rename_i heq <;> obtain ⟨rfl, -⟩ := Prod.mk.inj heq <;> exact hstop.of_closed _

theorem ensureStation (hs : s.Accounted) (c : Credentials) : (s.ensureStation c).1.Accounted := by
  rw [Supervisor.ensureStation]
  split
  · exact hs
  · exact hs.connectStation c

/-- A restart closes the portal and opens it again. -/
theorem clearAndRestart (hs : s.Accounted) : s.clearAndRestart.Accounted := by
  have hcleared : s.cleared.Accounted := hs
  have hidle : (s.cleared.stopProvisioning.call Radio.stop).1.toIdle.Accounted :=
    hcleared.stopProvisioning.of_closed _
  exact hidle.startProvisioning

/-! ### Events -/

/-- What the radio reports leads to a restart, or has nothing to do with scans. -/
theorem handleLink (hs : s.Accounted) (e : LinkEvent) : (s.handleLink e).Accounted := by
  cases e with
  | stationStarted | clientJoined | clientLeft | clientGotIp => exact hs
  | stationConnected | gotIp =>
      rw [Supervisor.handleLink]
      split <;> exact hs
  | stationDisconnected reason =>
      rw [Supervisor.handleLink]
      split
      · rw [linkLost]
        split
        · exact hs.clearAndRestart
        · exact hs
      · exact hs

theorem handleEvent (hs : s.Accounted) (e : Event) : (s.handleEvent e).Accounted := by
  cases e with
  | submitted c => exact hs.connectStation c
  | link e => exact hs.handleLink e

/-- Draining the queue keeps the snapshot accounted for, event by event. -/
theorem drain (hs : s.Accounted) : s.drain.Accounted :=
  drain_induct (fun t e rest _ ht => handleEvent (s := t.withEvents rest) ht e) hs

/-! ### Requests -/

/-- A scan that is made for a client is the session's. -/
theorem refresh {p : Portal (SurveyRadio ρ)}
    (h : p.hub.cache.snapshot.Accounted p.hub.radio.survey true) :
    p.refresh.1.hub.cache.snapshot.Accounted p.refresh.1.hub.radio.survey true := by
  rw [Portal.refresh]
  split
  · exact h
  · exact h.store_scanned rfl _

/-- **A request keeps the snapshot accounted for**, whatever it asks for. -/
theorem handle (hs : s.Accounted) (r : Request) : (s.handle r).1.Accounted := by
  cases hl : s.isListening with
  | false =>
      rw [handle_of_not_isListening hl]
      exact hs
  | true =>
      obtain ⟨x, hx, hactive⟩ := isListening_iff.mp hl
      rw [Accounted, hx] at hs
      rw [handle_of_session hx hactive, Accounted, survey]
      dsimp only [Option.isSome_some]
      rcases Portal.sameScans_handle ⟨s.hub, x, s.address⟩ r with hsame | hscanned
      · rw [hsame.cache_eq, hsame.radio_eq]
        exact hs
      · rw [hscanned.cache_eq, hscanned.radio_eq]
        exact refresh hs

end Accounted

/-! ### Calls in any order -/

/-- Whether the session waits for a scan. -/
def isScanning (s : Supervisor ρ) : Bool :=
  s.session.any Session.scanning

/-- A scan that was made for a session is left behind where the session has gone. -/
def leftBehind (before after : Supervisor ρ) : Nat :=
  if before.isScanning && !after.isScanning then 1 else 0

/-- Writes a note into the survey. -/
def note (s : Supervisor (SurveyRadio ρ)) (x : SurveyNote) : Supervisor (SurveyRadio ρ) :=
  { s with hub := { s.hub with radio := s.hub.radio.note x } }

/-- A scan that was left behind comes to its end. -/
def finishOverdue (s : Supervisor (SurveyRadio ρ)) (reply : ScanReply) :
    Supervisor (SurveyRadio ρ) :=
  { s with hub := { s.hub with cache := (s.hub.cache.store reply).1 } }.note (.overdue reply)

end Supervisor

/-- Whether a call is made by somebody, rather than something that ends or changes by itself. -/
def SupervisorCall.isMade {ρ : Type} : SupervisorCall ρ → Bool
  | startProvisioning | stopProvisioning | connectStation _ | ensureStation _ | clearAndRestart
  | processEvents | queue _ | request _ => true
  | scanned _ | meanwhile .. => false

namespace Supervisor

variable {ρ : Type} [Radio ρ]

/-- What a supervisor comes to be by calls, in any order, with the number of scans left behind that
are still running. Between calls scans end, and the host changes what it likes but the snapshot and
the survey. -/
inductive Surveyed (s : Supervisor (SurveyRadio ρ)) : Supervisor (SurveyRadio ρ) → Nat → Prop where
  | start : s.Surveyed s 0
  | call {t : Supervisor (SurveyRadio ρ)} {n : Nat} (c : SupervisorCall (SurveyRadio ρ))
      (hc : c.isMade = true) :
      s.Surveyed t n → s.Surveyed (t.perform c) (n + t.leftBehind (t.perform c))
  /-- A scan ends that outlived its wait, but not its session. -/
  | scanned {t : Supervisor (SurveyRadio ρ)} {n : Nat} (reply : ScanReply)
      (hscanning : t.isScanning = true) :
      s.Surveyed t n → s.Surveyed ((t.finishScan reply).note (.scanned reply)) n
  /-- One of the scans ends that were left behind. -/
  | overdue {t : Supervisor (SurveyRadio ρ)} {n : Nat} (reply : ScanReply) :
      s.Surveyed t (n + 1) → s.Surveyed (t.finishOverdue reply) n
  | meanwhile {t : Supervisor (SurveyRadio ρ)} {n : Nat} (radio : ρ) (store : Store) (held : Bool)
      (port : Faults) :
      s.Surveyed t n → s.Surveyed (t.perform (.meanwhile { t.hub.radio with radio } store
        { t.hub.cache with held } port)) n

namespace Accounted

variable {s : Supervisor (SurveyRadio ρ)}

/-- **Every call keeps the snapshot accounted for.** -/
theorem perform (hs : s.Accounted) {c : SupervisorCall (SurveyRadio ρ)} (hc : c.isMade = true) :
    (s.perform c).Accounted := by
  cases c with
  | startProvisioning => exact hs.startProvisioning
  | stopProvisioning => exact hs.stopProvisioning.of_closed _
  | connectStation c => exact hs.connectStation c
  | ensureStation c => exact hs.ensureStation c
  | clearAndRestart => exact hs.clearAndRestart
  | processEvents => exact hs.drain
  | queue events => exact hs
  | request r => exact hs.handle r
  | scanned | meanwhile => simp [SupervisorCall.isMade] at hc

omit [Radio ρ] in
/-- So does the end of the scan that the session waits for. -/
theorem finishScan (hs : s.Accounted) (hscanning : s.isScanning = true) (reply : ScanReply) :
    ((s.finishScan reply).note (.scanned reply)).Accounted := by
  rw [isScanning, Option.any_eq_true] at hscanning
  obtain ⟨x, hx, hwaits⟩ := hscanning
  rw [Accounted, hx] at hs
  rw [Supervisor.finishScan, hx]
  simp only [Portal.finishScan, hwaits, if_true]
  exact hs.store_scanned rfl reply

end Accounted

/-- **After any calls the snapshot is accounted for.** -/
theorem Surveyed.accounted {s t : Supervisor (SurveyRadio ρ)} {n : Nat} (hs : s.Accounted)
    (h : s.Surveyed t n) : t.Accounted := by
  induction h with
  | start => exact hs
  | call c hc _ ih => exact ih.perform hc
  | scanned reply hscanning _ ih => exact ih.finishScan hscanning reply
  | overdue reply _ ih => exact Snapshot.Accounted.store_overdue ih reply
  | meanwhile radio store held port _ ih => exact ih

/-- A supervisor that was just booted, over a radio with an empty survey. -/
def booted (settings : Settings) (radio : ρ) (store : Store) (port : Faults) :
    Supervisor (SurveyRadio ρ) :=
  { Boot.supervisor settings ({ radio } : SurveyRadio ρ) store with port }

omit [Radio ρ] in
theorem accounted_booted (settings : Settings) (radio : ρ) (store : Store) (port : Faults) :
    (booted settings radio store port).Accounted :=
  .empty _ _

/-- A client who is listed networks is listed those of a scan that the snapshot is accounted for
by. -/
theorem Accounted.handle_scan {s : Supervisor (SurveyRadio ρ)} (hs : s.Accounted) {r : Request}
    {a : Response} (hmethod : r.method = "GET") (hpath : r.route.1 = "/local-wifi")
    (ha : (s.handle r).2 = some a) (hok : a.status = 200) :
    ∃ networks cached, a = listingOf networks cached ∧
      (SurveyNote.Current networks (s.handle r).1.survey ∨
        .overdue (.found networks) ∈ (s.handle r).1.survey) := by
  have hafter := hs.handle r
  cases hl : s.isListening with
  | false =>
      rw [handle_of_not_isListening hl] at ha
      simp at ha
  | true =>
      obtain ⟨x, hx, hactive⟩ := isListening_iff.mp hl
      rw [handle_of_session hx hactive] at ha hafter ⊢
      obtain rfl : (Portal.handle ⟨s.hub, x, s.address⟩ r).2 = a := Option.some.inj ha
      cases hclaim : x.submitted with
      | true =>
          rw [Portal.handle_of_submitted hclaim] at hok
          simp [Response.refusal, RequestError.status] at hok
      | false =>
          rw [Portal.handle_of_scan hclaim hmethod hpath] at hok hafter ⊢
          obtain ⟨hpopulated, fresh, hlisting⟩ := Portal.scan_eq_listing hok
          obtain ⟨networks, hsnapshot, horigin⟩ := hafter hpopulated
          refine ⟨networks, !fresh, ?_, horigin.imp And.right id⟩
          rw [hlisting, hsnapshot]
          exact Portal.listing_eq_listingOf networks fresh

/-- **Whose networks are kept and listed.** The snapshot outlives no session by itself: without a
session it is that of an overdue scan, and so a client is listed networks that were found in the
same session or by an overdue scan. Such a scan is kept from nobody, though. When a scan that was
left behind succeeds while nobody holds the cache, its networks are the snapshot from then on,
whether there is a session or not. -/
theorem snapshot_of_surveyed (settings : Settings) (radio : ρ) (store : Store) (port : Faults)
    {s : Supervisor (SurveyRadio ρ)} {n : Nat}
    (h : (booted settings radio store port).Surveyed s n) :
    (s.hub.cache.snapshot.populated = true → s.session.isSome = true ∨
      ∃ networks, .overdue (.found networks) ∈ s.survey ∧
        s.hub.cache.snapshot = ⟨networks.take ScanCache.capacity, true⟩) ∧
    (∀ (r : Request) (a : Response), r.method = "GET" → r.route.1 = "/local-wifi" →
      (s.handle r).2 = some a → a.status = 200 →
        ∃ networks cached, a = listingOf networks cached ∧
          (SurveyNote.Current networks (s.handle r).1.survey ∨
            .overdue (.found networks) ∈ (s.handle r).1.survey)) ∧
    ∀ (networks : List Network) (m : Nat), n = m + 1 → s.hub.cache.held = false →
      (booted settings radio store port).Surveyed (s.finishOverdue (.found networks)) m ∧
      (s.finishOverdue (.found networks)).session = s.session ∧
      (s.finishOverdue (.found networks)).hub.cache.snapshot =
        ⟨networks.take ScanCache.capacity, true⟩ := by
  have hs : s.Accounted := h.accounted (accounted_booted settings radio store port)
  refine ⟨?_, fun r a hmethod hpath ha hok => hs.handle_scan hmethod hpath ha hok, ?_⟩
  · intro hpopulated
    obtain ⟨networks, hsnapshot, ⟨hsession, -⟩ | hoverdue⟩ := hs hpopulated
    · exact .inl hsession
    · exact .inr ⟨networks, hoverdue, hsnapshot⟩
  · rintro networks m rfl hheld
    exact ⟨h.overdue _, rfl, ScanCache.snapshot_store_found _ hheld networks⟩

/-- A client asks for fresh networks in vain, the portal is closed, and the scan ends. The next
session opens with a scan that fails, and lists what the old scan found. -/
theorem snapshot_of_surveyed_of_overdue :
    let old : Network := ⟨"Old", -40, 6, true⟩
    let start : Supervisor (SurveyRadio ScriptedRadio) :=
      booted {} { networks := [old] } (.memory {}) .never
    let turned (s : Supervisor (SurveyRadio ScriptedRadio)) (radio : ScriptedRadio) :
        Supervisor (SurveyRadio ScriptedRadio) := s.perform (.meanwhile
      { s.hub.radio with radio } s.hub.store { s.hub.cache with held := false } s.port)
    let hanging := turned (start.perform .startProvisioning) { networks := [old], hanging := true }
    let asked := hanging.perform (.request { method := "GET", target := "/local-wifi?refresh=1" })
    let closed := asked.perform .stopProvisioning
    let late := closed.finishOverdue (.found [old])
    let deaf := turned late { networks := [], script := { scan := some .notStarted } }
    let next := deaf.perform .startProvisioning
    let list : Request := { method := "GET", target := "/local-wifi" }
    start.Surveyed next 0 ∧ late.session = none ∧ late.hub.cache.snapshot = ⟨[old], true⟩ ∧
      (next.handle list).2 = some (listingOf [old] true) ∧
      ¬SurveyNote.Current [old] (next.handle list).1.survey := by
  intro old start turned hanging asked closed late deaf next list
  have hopened : start.Surveyed (start.perform .startProvisioning) 0 :=
    .call .startProvisioning rfl .start
  have hasked : start.Surveyed asked 0 := .call (.request _) rfl (.meanwhile _ _ _ _ hopened)
  have hclosed : start.Surveyed closed (0 + 1) := .call .stopProvisioning rfl hasked
  obtain ⟨-, -, hoverdue⟩ :=
    snapshot_of_surveyed {} ({ networks := [old] } : ScriptedRadio) (.memory {}) .never hclosed
  obtain ⟨hlate, hsession, hsnapshot⟩ := hoverdue [old] 0 rfl rfl
  have hnext : start.Surveyed next 0 :=
    .call .startProvisioning rfl (.meanwhile _ _ _ _ hlate)
  have hsession' : next.session = some { active := true } := by decide +kernel
  have hcache : next.hub.cache = ⟨⟨[old], true⟩, false⟩ := by decide +kernel
  have hpath : list.route = ("/local-wifi", []) := by decide +kernel
  have hscan : Portal.scan ⟨next.hub, { active := true }, next.address⟩ false =
      (⟨next.hub, { active := true }, next.address⟩, listingOf [old] true) := by
    rw [Portal.scan_of_populated (by rw [hcache]) (by rw [hcache]), hcache]
    exact congrArg (Prod.mk _) (Portal.listing_eq_listingOf [old] false)
  have hlisted : next.handle list = (next, some (listingOf [old] true)) := by
    have hfresh : Query.refreshRequested list.route.2 = false := by
      rw [hpath]
      rfl
    rw [handle_of_session hsession' rfl, Portal.handle_of_scan rfl rfl (congrArg Prod.fst hpath),
      hfresh, hscan, ← hsession']
  have hsurvey : next.survey = [.opened, .scanned (.found [old]), .scanned .pending,
      .overdue (.found [old])] ++ [.opened] ++ [.scanned (.failed .notStarted)] := by decide +kernel
  refine ⟨hnext, hsession, hsnapshot, by rw [hlisted], ?_⟩
  rw [hlisted, hsurvey]
  intro hcurrent
  rcases pending_concat.mp hcurrent with hfound | ⟨hearlier, -⟩
  · simp at hfound
  · exact SurveyNote.not_current_opened hearlier

end Supervisor

end Onboarding
