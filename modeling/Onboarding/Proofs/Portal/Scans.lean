import Onboarding.Portal.Line
import Onboarding.Proofs.Portal.Answers
import Onboarding.Proofs.Radio.Diary
import Onboarding.Radio.Scripted

/-!
# What clients see of the networks around

Clients are served a snapshot, and the snapshot has a history: it is taken by the supervisor when a
session begins and by clients who ask for a fresh one, a scan may fail, and between two sessions the
snapshot is forgotten. The portal keeps the snapshot and a flag only. That it serves the right
networks is a matter of the radio's diary: a snapshot is there exactly if there are latest networks
in the diary, and it holds the first of them (`Portal.Faithful`).

Scans that outlive their wait are left out here: no scan of these sessions is pending.

## Main results

* `Portal.listing_eq_listingOf`: networks are listed member by member.
* `Portal.sameScans_handle`: a request leaves the scans alone, or makes one.
* `Portal.Faithful.turn`: whatever happens, the snapshot stays true to the diary.
* `Portal.Faithful.scan`: how a client is served, and at the cost of which scan.
* `Portal.served_after_turns`: the same for a session of any length.
-/

namespace Onboarding

/-- The answer that lists the first twenty of some networks, in their order. -/
def listingOf (networks : List Network) (cached : Bool) : Response where
  status := 200
  body := .object
    [("cached", .bool cached), ("count", .number (.integer (networks.take 20).length)),
      ("networks", .array ((networks.take 20).map fun n => .object
        [("channel", .number (.integer n.channel.toNat)), ("rssi", .number (.integer n.rssi)),
          ("secure", .bool n.secure), ("ssid", .text n.ssid)]))]

/-- The members of a network, as an object lists them, which is by name. -/
theorem Network.json_eq (n : Network) : n.json = .object
    [("channel", .number (.integer n.channel.toNat)), ("rssi", .number (.integer n.rssi)),
      ("secure", .bool n.secure), ("ssid", .text n.ssid)] := by
  have hbefore : "rssi" < "ssid" ∧ "channel" < "rssi" ∧ "secure" < "ssid" := by decide +kernel
  have hbehind : ¬"secure" < "channel" ∧ ¬"secure" < "rssi" := by decide +kernel
  simp [json, Json.ofMembers, Json.ofNat, Entries.ofList, Entries.insert, hbefore, hbehind]

/-- **A snapshot is listed member by member.** -/
theorem Portal.listing_eq_listingOf (networks : List Network) (fresh : Bool) :
    Portal.listing ⟨networks.take ScanCache.capacity, true⟩ fresh =
      listingOf networks (!fresh) := by
  have hbefore : "count" < "networks" ∧ "cached" < "count" := by decide +kernel
  have hnetworks : Network.json = fun n : Network => .object
      [("channel", .number (.integer n.channel.toNat)), ("rssi", .number (.integer n.rssi)),
        ("secure", .bool n.secure), ("ssid", .text n.ssid)] := funext Network.json_eq
  simp [listing, listingOf, hnetworks, Response.ok, ScanCache.capacity, Json.ofMembers,
    Json.ofNat, Entries.ofList, Entries.insert, hbefore]

/-! ### One scan -/

namespace Hub

variable {ρ : Type} [Radio ρ] {h : Hub ρ}

/-- A scan that succeeds replaces the snapshot. -/
theorem refreshCache_of_found (hheld : h.cache.held = false) {networks : List Network}
    (hreply : (Radio.scan h.radio).2 = .found networks) :
    h.refreshCache =
      ({ h with
          radio := (Radio.scan h.radio).1
          cache := { h.cache with snapshot := ⟨networks.take ScanCache.capacity, true⟩ } },
        .ok (networks.take ScanCache.capacity).length) := by
  simp only [refreshCache, ScanCache.refresh, hreply, ScanCache.store, hheld, Bool.false_eq_true,
    if_false]

/-- A scan that does not succeed changes nothing. -/
theorem refreshCache_of_unfound (hreply : (Radio.scan h.radio).2.isFound = false) :
    h.refreshCache = ({ h with radio := (Radio.scan h.radio).1 }, .error .scanFailed) := by
  cases hscan : (Radio.scan h.radio).2 with
  | found networks => simp [hscan, ScanReply.isFound] at hreply
  | failed e | pending => simp only [refreshCache, ScanCache.refresh, hscan, ScanCache.store]

/-- A scan succeeds for a cache that nobody holds exactly if it finds networks. -/
theorem isOk_refreshCache (hheld : h.cache.held = false) :
    h.refreshCache.2.isOk = (Radio.scan h.radio).2.isFound := by
  cases hscan : (Radio.scan h.radio).2 with
  | found networks =>
      rw [refreshCache_of_found hheld hscan]
      rfl
  | failed e | pending =>
      rw [refreshCache_of_unfound (by rw [hscan]; rfl)]
      rfl

end Hub

namespace Portal

section

variable {ρ : Type} [Radio ρ] {p : Portal ρ}

/-- Where no scan is running, a client has the networks scanned as the supervisor does, unless this
scan outlives its wait. -/
theorem refresh_of_idle (hidle : p.session.scanning = false)
    (hreply : (Radio.scan p.hub.radio).2 ≠ .pending) :
    p.refresh = ({ p with hub := p.hub.refreshCache.1 }, p.hub.refreshCache.2.isOk) := by
  have hsession : { p.session with scanning := false } = p.session := by rw [← hidle]
  rw [refresh, if_neg (by simp [hidle])]
  simp only [hreply, decide_false, hsession]
  rfl

/-! ### One answer -/

/-- A cache that nobody holds is served as it is. -/
theorem listed_of_free {ρ : Type} {p : Portal ρ} (hheld : p.hub.cache.held = false)
    (fresh : Bool) : p.listed fresh = listing p.hub.cache.snapshot fresh := by
  simp only [listed, ScanCache.read, hheld, Bool.false_eq_true, if_false]

/-- A client who does not insist is served the snapshot that is there. -/
theorem scan_of_populated (hheld : p.hub.cache.held = false)
    (hpopulated : p.hub.cache.snapshot.populated = true) :
    p.scan false = (p, listing p.hub.cache.snapshot false) := by
  simp only [scan, Bool.false_eq_true, if_false, ScanCache.read, hheld, hpopulated, if_true]

/-- For a client who insists, or who finds no snapshot, the radio scans first. -/
theorem scan_of_wanted (hheld : p.hub.cache.held = false) {wantsFresh : Bool}
    (h : wantsFresh = true ∨ p.hub.cache.snapshot.populated = false) :
    p.scan wantsFresh = (p.refresh.1, p.refresh.1.listed p.refresh.2) := by
  cases wantsFresh with
  | true => rfl
  | false =>
      have hempty : p.hub.cache.snapshot.populated = false := by simpa using h
      simp only [scan, Bool.false_eq_true, if_false, ScanCache.read, hheld, hempty]

/-- An answer lists networks exactly if there is a snapshot. -/
theorem status_listing_eq_ok_iff (s : Snapshot) (fresh : Bool) :
    (listing s fresh).status = 200 ↔ s.populated = true := by
  rw [listing]
  split <;> simp_all [Response.ok, Response.scanFailed]

/-- A client who is listed networks is listed those of the snapshot. -/
theorem scan_eq_listing {wantsFresh : Bool}
    (h : (p.scan wantsFresh).2.status = 200) :
    (p.scan wantsFresh).1.hub.cache.snapshot.populated = true ∧
      ∃ fresh, (p.scan wantsFresh).2 =
        listing (p.scan wantsFresh).1.hub.cache.snapshot fresh := by
  have hlisted {q : Portal ρ} {fresh : Bool} (hq : (q.listed fresh).status = 200) :
      q.hub.cache.snapshot.populated = true ∧
        ∃ fresh', q.listed fresh = listing q.hub.cache.snapshot fresh' := by
    cases hheld : q.hub.cache.held with
    | true => simp [listed, ScanCache.read, hheld, Response.cacheBusy] at hq
    | false =>
        rw [listed_of_free hheld] at hq ⊢
        exact ⟨(status_listing_eq_ok_iff _ _).mp hq, fresh, rfl⟩
  cases hheld : p.hub.cache.held with
  | true =>
      cases wantsFresh with
      | true => exact hlisted h
      | false => simp [scan, ScanCache.read, hheld, Response.cacheBusy] at h
  | false =>
      by_cases hwanted : wantsFresh = true ∨ p.hub.cache.snapshot.populated = false
      · rw [scan_of_wanted hheld hwanted] at h ⊢
        exact hlisted h
      · obtain ⟨hlax, hpopulated⟩ := not_or.mp hwanted
        obtain rfl : wantsFresh = false := by simpa using hlax
        have hthere : p.hub.cache.snapshot.populated = true := by simpa using hpopulated
        rw [scan_of_populated hheld hthere]
        exact ⟨hthere, false, rfl⟩

/-! ### One request -/

/-- Two portals with the same scans: radio, cache, and whether a scan is running. -/
structure SameScans {ρ : Type} (p q : Portal ρ) : Prop where
  radio_eq : q.hub.radio = p.hub.radio
  cache_eq : q.hub.cache = p.hub.cache
  scanning_eq : q.session.scanning = p.session.scanning

theorem SameScans.rfl {ρ : Type} (p : Portal ρ) : p.SameScans p :=
  ⟨Eq.refl _, Eq.refl _, Eq.refl _⟩

/-- A client who asks for the networks finds them, or has them scanned. -/
theorem scan_fst (p : Portal ρ) (wantsFresh : Bool) :
    (p.scan wantsFresh).1 = p ∨ (p.scan wantsFresh).1 = p.refresh.1 := by
  rw [scan]
  split
  · exact .inr rfl
  · split
    · exact .inl rfl
    · split
      · exact .inl rfl
      · exact .inr rfl

/-- A client who asks for the networks is answered by the scan of the session. -/
theorem handle_of_scan {r : Request} (hs : p.session.submitted = false)
    (hmethod : r.method = "GET") (hpath : r.route.1 = "/local-wifi") :
    p.handle r = p.scan (Query.refreshRequested r.route.2) := by
  have hsubmit : r.route.1 ≠ "/provision" := by
    rw [hpath]
    decide
  rw [handle_eq_dispatch hs (Request.submission_of_path hsubmit)]
  simp only [dispatch, if_pos hpath, if_pos hmethod]

/-- A submission has nothing to do with scans. -/
theorem sameScans_submit {ρ : Type} (p : Portal ρ) (body : Except RequestError Bytes)
    (authorization : Option String) : p.SameScans (p.submit body authorization).1 := by
  rw [submit]
  split
  · rw [accept]
    split
    · exact .rfl p
    · dsimp only [Hub.withStore]
      split <;> rename_i heq <;> obtain ⟨rfl, -⟩ := Prod.mk.inj heq <;>
        exact ⟨Eq.refl _, Eq.refl _, Eq.refl _⟩
  · exact .rfl p

/-- **A request leaves the scans as they were, or has the networks scanned once.** -/
theorem sameScans_handle (p : Portal ρ) (r : Request) :
    p.SameScans (p.handle r).1 ∨ p.refresh.1.SameScans (p.handle r).1 := by
  have hdispatch : p.SameScans (p.dispatch r).1 ∨ p.refresh.1.SameScans (p.dispatch r).1 := by
    rw [dispatch]
    split
    split
    · split
      · rcases p.scan_fst (Query.refreshRequested _) with hsame | hscanned
        · exact .inl (hsame.symm ▸ .rfl p)
        · exact .inr (hscanned.symm ▸ .rfl p.refresh.1)
      · exact .inl (.rfl p)
    · split
      · split
        · exact .inl (p.sameScans_submit _ _)
        · exact .inl (.rfl p)
      · split
        · split <;> exact .inl (.rfl p)
        · exact .inl (.rfl p)
  rw [handle]
  split
  · exact .inl (.rfl p)
  · dsimp only
    rw [afterwards]
    split
    · exact hdispatch.imp (fun h => ⟨h.radio_eq, h.cache_eq, h.scanning_eq⟩)
        fun h => ⟨h.radio_eq, h.cache_eq, h.scanning_eq⟩
    · exact hdispatch

end

/-! ### Sessions -/

variable {ρ : Type}

/-- The diary of the radio. -/
def diary (p : Portal (DiaryRadio ρ)) : List DiaryNote :=
  p.hub.radio.diary

/-- The snapshot is what the diary says that it has to be: the first of the latest networks. -/
structure Faithful (p : Portal (DiaryRadio ρ)) : Prop where
  free : p.hub.cache.held = false
  idle : p.session.scanning = false
  listed : ∀ networks, DiaryNote.Latest networks p.diary →
    p.hub.cache.snapshot = ⟨networks.take ScanCache.capacity, true⟩
  empty : (¬∃ networks, DiaryNote.Latest networks p.diary) → p.hub.cache.snapshot = {}

/-- Something that happens to the snapshot or to what the radio sees. -/
inductive ScanTurn (ρ : Type) where
  /-- A client asks for the networks. -/
  | ask (wantsFresh : Bool)
  /-- The supervisor has the networks scanned. -/
  | refresh
  /-- The supervisor forgets the networks. -/
  | invalidate
  /-- The surroundings of the radio change. -/
  | meanwhile (radio : ρ)

/-- How a client is served who asks for the networks. The scan that is made for it, if there is one,
is its `own`. -/
structure Serves (before : Portal (DiaryRadio ρ)) (wantsFresh : Bool) (own : Option ScanReply)
    (after : Portal (DiaryRadio ρ)) (answer : Response) : Prop where
  diary_eq : after.diary = before.diary ++ own.toList.map .scanned
  own_iff : own.isSome = true ↔
    wantsFresh = true ∨ before.hub.cache.snapshot.populated = false
  populated_iff : after.hub.cache.snapshot.populated = true ↔
    ∃ networks, DiaryNote.Latest networks after.diary
  status_iff : answer.status = 200 ↔ after.hub.cache.snapshot.populated = true
  listed : ∀ networks, DiaryNote.Latest networks after.diary →
    answer = listingOf networks (!own.any ScanReply.isFound)
  failed : after.hub.cache.snapshot.populated = false →
    answer.status = 500 ∧ answer.body = .object
      [("error", .text "scan_failed"), ("message", .text "No cached data available")]
  /-- Only a scan that succeeds changes anything. -/
  unchanged : own.any ScanReply.isFound = false →
    after = { before with hub := { before.hub with radio := after.hub.radio } }

variable [Radio ρ]

/-- The portal after something happened. Networks are forgotten in the diary too. -/
def turn (p : Portal (DiaryRadio ρ)) : ScanTurn ρ → Portal (DiaryRadio ρ)
  | .ask wantsFresh => (p.scan wantsFresh).1
  | .refresh => { p with hub := p.hub.refreshCache.1 }
  | .invalidate =>
    { p with hub := { p.hub.invalidateCache with radio := p.hub.radio.note .forgotten } }
  | .meanwhile radio => { p with hub := { p.hub with radio := { p.hub.radio with radio } } }

/-- The portal after things happened in their order. -/
def turns (p : Portal (DiaryRadio ρ)) (ts : List (ScanTurn ρ)) : Portal (DiaryRadio ρ) :=
  ts.foldl turn p

/-- A scan is noted with its end. -/
theorem diary_scan (r : DiaryRadio ρ) :
    (Radio.scan r).1.diary = r.diary ++ [.scanned (Radio.scan r).2] := rfl

/-- So is the scan of a portal where none is running. -/
theorem diary_refresh {p : Portal (DiaryRadio ρ)} (hidle : p.session.scanning = false) :
    p.refresh.1.diary = p.diary ++ [.scanned (Radio.scan p.hub.radio).2] := by
  rw [refresh, if_neg (by simp [hidle])]
  rfl

/-- No note is ever taken back. -/
theorem diary_prefix_turn (p : Portal (DiaryRadio ρ)) (t : ScanTurn ρ) :
    p.diary <+: (p.turn t).diary := by
  cases t with
  | ask wantsFresh =>
      rcases p.scansAtMost_scan wantsFresh with hsame | hscanned
      · exact ⟨[], (List.append_nil _).trans (congrArg DiaryRadio.diary hsame).symm⟩
      · exact ⟨_, (congrArg DiaryRadio.diary hscanned).symm⟩
  | refresh => exact List.prefix_append _ _
  | invalidate => exact List.prefix_append _ _
  | meanwhile radio => exact List.prefix_refl _

theorem diary_prefix_turns (p : Portal (DiaryRadio ρ)) (ts : List (ScanTurn ρ)) :
    p.diary <+: (p.turns ts).diary := by
  induction ts generalizing p with
  | nil => exact List.prefix_refl _
  | cons t ts ih => exact (p.diary_prefix_turn t).trans (ih (p.turn t))

namespace Faithful

variable {p before after : Portal (DiaryRadio ρ)}

omit [Radio ρ] in
/-- There is a snapshot exactly if there are latest networks. -/
theorem populated_iff (hp : p.Faithful) :
    p.hub.cache.snapshot.populated = true ↔
      ∃ networks, DiaryNote.Latest networks p.diary := by
  constructor
  · intro hpopulated
    by_contra hnone
    simp [hp.empty hnone] at hpopulated
  · rintro ⟨networks, hlatest⟩
    rw [hp.listed networks hlatest]

/-- The supervisor's scan leaves a snapshot that is true to the diary. -/
theorem refreshCache (hp : p.Faithful) : Faithful { p with hub := p.hub.refreshCache.1 } := by
  cases hreply : (Radio.scan p.hub.radio).2 with
  | found networks =>
      have hlatest : ∀ latest, DiaryNote.Latest latest (Radio.scan p.hub.radio).1.diary ↔
          latest = networks := by
        intro latest
        rw [diary_scan, hreply]
        exact DiaryNote.latest_found
      rw [Hub.refreshCache_of_found hp.free hreply]
      refine ⟨hp.free, hp.idle, ?_, fun hnone => absurd ⟨networks, (hlatest _).mpr rfl⟩ hnone⟩
      intro latest h
      rw [(hlatest latest).mp h]
  | failed e | pending =>
      have hunfound : (Radio.scan p.hub.radio).2.isFound = false := by
        rw [hreply]
        rfl
      have hlatest : ∀ latest, DiaryNote.Latest latest (Radio.scan p.hub.radio).1.diary ↔
          DiaryNote.Latest latest p.diary := by
        intro latest
        rw [diary_scan]
        exact DiaryNote.latest_unfound hunfound
      rw [Hub.refreshCache_of_unfound hunfound]
      refine ⟨hp.free, hp.idle, fun latest h => hp.listed latest ((hlatest latest).mp h), ?_⟩
      intro hnone
      exact hp.empty fun ⟨latest, h⟩ => hnone ⟨latest, (hlatest latest).mpr h⟩

omit [Radio ρ] in
/-- Whoever is shown the snapshot is served as the diary demands. -/
theorem serves (hafter : after.Faithful) {wantsFresh : Bool} {own : Option ScanReply}
    (hdiary : after.diary = before.diary ++ own.toList.map .scanned)
    (hown : own.isSome = true ↔
      wantsFresh = true ∨ before.hub.cache.snapshot.populated = false)
    (hunchanged : own.any ScanReply.isFound = false →
      after = { before with hub := { before.hub with radio := after.hub.radio } }) :
    before.Serves wantsFresh own after
      (listing after.hub.cache.snapshot (own.any ScanReply.isFound)) where
  diary_eq := hdiary
  own_iff := hown
  populated_iff := hafter.populated_iff
  status_iff := status_listing_eq_ok_iff _ _
  listed := by
    intro networks hlatest
    rw [hafter.listed networks hlatest]
    exact listing_eq_listingOf networks _
  failed := by
    intro hempty
    rw [listing, if_neg (by simp [hempty])]
    exact ⟨rfl, rfl⟩
  unchanged := hunchanged

/-- **A client is served what the diary demands**, for one scan of its own at most. -/
theorem scan (hp : p.Faithful) (wantsFresh : Bool)
    (hwithin : .scanned .pending ∉ (p.scan wantsFresh).1.diary) :
    (p.scan wantsFresh).1.Faithful ∧
      ∃ own, p.Serves wantsFresh own (p.scan wantsFresh).1 (p.scan wantsFresh).2 := by
  by_cases hwanted : wantsFresh = true ∨ p.hub.cache.snapshot.populated = false
  · rw [scan_of_wanted hp.free hwanted] at hwithin ⊢
    have hreply : (Radio.scan p.hub.radio).2 ≠ .pending := by
      intro hpending
      rw [diary_refresh hp.idle, hpending] at hwithin
      exact hwithin (List.mem_append_right _ (List.mem_singleton_self _))
    have hafter := hp.refreshCache
    rw [refresh_of_idle hp.idle hreply]
    dsimp only
    rw [listed_of_free hafter.free, Hub.isOk_refreshCache hp.free]
    refine ⟨hafter, some (Radio.scan p.hub.radio).2, hafter.serves rfl (by simp [hwanted]) ?_⟩
    intro hunfound
    rw [Hub.refreshCache_of_unfound hunfound]
  · obtain ⟨hlax, hpopulated⟩ := not_or.mp hwanted
    obtain rfl : wantsFresh = false := by simpa using hlax
    rw [scan_of_populated hp.free (by simpa using hpopulated)]
    exact ⟨hp, none, hp.serves (by simp) (by simp [hpopulated]) fun _ => rfl⟩

/-- **Whatever happens, the snapshot stays true to the diary**, as long as no scan is pending. -/
theorem turn (hp : p.Faithful) (t : ScanTurn ρ)
    (hwithin : .scanned .pending ∉ (p.turn t).diary) : (p.turn t).Faithful := by
  cases t with
  | ask wantsFresh => exact (hp.scan wantsFresh hwithin).1
  | refresh => exact hp.refreshCache
  | invalidate =>
      exact ⟨hp.free, hp.idle, fun _ hlatest => absurd hlatest DiaryNote.not_latest_forgotten,
        fun _ => rfl⟩
  | meanwhile radio => exact ⟨hp.free, hp.idle, hp.listed, hp.empty⟩

theorem turns (hp : p.Faithful) (ts : List (ScanTurn ρ))
    (hwithin : .scanned .pending ∉ (p.turns ts).diary) : (p.turns ts).Faithful := by
  induction ts generalizing p with
  | nil => exact hp
  | cons t ts ih =>
      have hfirst : .scanned .pending ∉ (p.turn t).diary :=
        fun hmem => hwithin (((p.turn t).diary_prefix_turns ts).mem hmem)
      exact ih (hp.turn t hfirst) hwithin

end Faithful

/-- **Clients are served the latest networks**, whatever happened in the session before. The call
makes the radio scan once if the client insists or if there is no snapshot, and not at all
otherwise. Its answer is a list exactly if there is a snapshot then, and the list is that of the
first twenty networks of the last scan that succeeded since the snapshot was forgotten. A scan that
fails, a client's or the supervisor's, changes nothing. -/
theorem served_after_turns (radio : ρ) (store : Store) (connectivity : Connectivity)
    (inbox : Inbox) (active submitted : Bool) (address : Ipv4) (ts : List (ScanTurn ρ))
    (wantsFresh : Bool) :
    let start : Portal (DiaryRadio ρ) :=
      ⟨{ radio := { radio }, store, connectivity, inbox }, { active, submitted }, address⟩
    let before := start.turns ts
    let after := (before.scan wantsFresh).1
    let answer := (before.scan wantsFresh).2
    .scanned .pending ∉ after.diary →
      (∃ own, before.Serves wantsFresh own after answer) ∧
      ((Radio.scan before.hub.radio).2.isFound = false →
        before.turn .refresh =
          { before with hub := { before.hub with radio := (Radio.scan before.hub.radio).1 } }) := by
  intro start before after answer hwithin
  have hstart : start.Faithful :=
    ⟨rfl, rfl, fun _ hlatest => absurd hlatest DiaryNote.not_latest_nil, fun _ => rfl⟩
  have hearlier : .scanned .pending ∉ before.diary :=
    fun hmem => hwithin ((before.diary_prefix_turn (.ask wantsFresh)).mem hmem)
  have hbefore : before.Faithful := hstart.turns ts hearlier
  refine ⟨(hbefore.scan wantsFresh hwithin).2, ?_⟩
  intro hunfound
  rw [turn, Hub.refreshCache_of_unfound hunfound]

/-- A scan fails, the next one finds a network, and a client who insists is served that one again
because a third scan fails. -/
theorem served_after_turns_of_stale :
    let home : Network := ⟨"Home", -40, 6, true⟩
    let deaf : ScriptedRadio := { networks := [], script := { scan := some .notStarted } }
    let start : Portal (DiaryRadio ScriptedRadio) :=
      ⟨{ radio := { radio := deaf }, store := .memory {} }, { active := true }, .loopback⟩
    let before := start.turns
      [.ask false, .meanwhile { networks := [home] }, .invalidate, .ask false, .meanwhile deaf]
    let after := (before.scan true).1
    .scanned .pending ∉ after.diary ∧ DiaryNote.Latest [home] after.diary ∧
      (before.scan true).2.line = "200 \x7b\"cached\":true,\"count\":1,\"networks\":[" ++
        "\x7b\"channel\":6,\"rssi\":-40,\"secure\":true,\"ssid\":\"Home\"\x7d]\x7d" := by
  intro home deaf start before after
  have hdiary : after.diary =
      [.scanned (.failed .notStarted), .forgotten, .scanned (.found [home]),
        .scanned (.failed .notStarted)] := by decide +kernel
  have hwithin : .scanned .pending ∉ after.diary := by
    rw [hdiary]
    decide
  have hlatest : DiaryNote.Latest [home] after.diary := by
    rw [hdiary]
    exact ⟨[.scanned (.failed .notStarted), .forgotten], .scanned (.found [home]),
      [.scanned (.failed .notStarted)], rfl, by decide, by decide⟩
  obtain ⟨⟨own, hserves⟩, -⟩ :=
    served_after_turns deaf (.memory {}) .disconnected {} true false .loopback
      [.ask false, .meanwhile { networks := [home] }, .invalidate, .ask false, .meanwhile deaf]
      true hwithin
  -- the note that the last client adds tells how its own scan ended
  have hown : own.any ScanReply.isFound = false := by
    have hbefore : before.diary =
        [.scanned (.failed .notStarted), .forgotten, .scanned (.found [home])] := by decide +kernel
    have hnotes : after.diary = before.diary ++ own.toList.map .scanned := hserves.diary_eq
    rw [hdiary, hbefore] at hnotes
    cases own with
    | none => rfl
    | some reply =>
        obtain rfl : reply = .failed .notStarted := by simpa using hnotes.symm
        rfl
  refine ⟨hwithin, hlatest, ?_⟩
  rw [hserves.listed [home] hlatest, hown]
  decide +kernel

end Portal

end Onboarding
