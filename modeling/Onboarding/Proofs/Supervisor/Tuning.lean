import Onboarding.Proofs.Portal.Scans
import Onboarding.Proofs.Radio.Host
import Onboarding.Proofs.Supervisor.Agreement

/-!
# Supervisor and radio are in the same mode

A host's radio has a mode of its own, and it refuses to scan or to join again in the wrong one. The
supervisor changes that mode by calls that stand apart from its own changes of state, and some of
its calls stop half-way. Still the two go together (`Supervisor.Tuned`): in station mode the radio
is in station mode, and behind a portal it is an access point. So no scan and no renewed join is
ever refused, and the snapshot that a portal serves is the list of the radio's networks, since the
portal opens with a scan and forgets the snapshot when it closes.

This is over a radio that only the supervisor drives, and a cache that only it and its portal use.

## Main results

* `Supervisor.Tuned.startProvisioning`, `Supervisor.Tuned.connectStation`,
  `Supervisor.Tuned.clearAndRestart`: operations.
* `Supervisor.Tuned.handleLink`, `Supervisor.Tuned.handle`: events and requests.
* `Supervisor.Tuned.perform`: every call keeps the two together.
* `Supervisor.tuned_performAll`: the modes after any calls, and what the radio and the portal
  answered.
-/

namespace Onboarding

namespace DiaryRadio

variable {r : DiaryRadio HostRadio}

/-- A host's radio that is not switched off finds its networks. -/
theorem scan_of_on (h : r.radio.mode ≠ .off) :
    Radio.scan r = (r.note (.scanned (.found r.radio.networks)), .found r.radio.networks) := by
  have hscan : Radio.scan r.radio = (r.radio, .found r.radio.networks) := by
    change HostRadio.scan r.radio = _
    rw [HostRadio.scan, if_neg h]
  change (({ radio := (Radio.scan r.radio).1
             diary := r.diary ++ [.scanned (Radio.scan r.radio).2] } : DiaryRadio HostRadio),
    (Radio.scan r.radio).2) = _
  rw [hscan]
  rfl

/-- A host's radio in station mode joins again, and notes that it did. -/
theorem radio_rejoin_of_station (h : r.radio.mode = .station) :
    (Radio.rejoin r).radio = r.note (.rejoined (.ok ())) := by
  change ({ radio := (Radio.rejoin r.radio).radio
            diary := r.diary ++ [.rejoined (Radio.rejoin r.radio).result] } :
    DiaryRadio HostRadio) = _
  rw [HostRadio.rejoin_of_station h]
  rfl

end DiaryRadio

/-- A diary without refusals goes on so with a note that is none. -/
theorem DiaryNote.started_concat {diary : List DiaryNote} {x : DiaryNote}
    (h : ∀ y ∈ diary, y.isNotStarted = false) (hx : x.isNotStarted = false) :
    ∀ y ∈ diary ++ [x], y.isNotStarted = false := by
  intro y hy
  rcases List.mem_append.mp hy with hy | hy
  · exact h y hy
  · exact List.mem_singleton.mp hy ▸ hx

namespace Supervisor

theorem held_stopProvisioning {ρ : Type} (s : Supervisor ρ) :
    s.stopProvisioning.hub.cache.held = s.hub.cache.held := by
  rw [stopProvisioning]
  split <;> rfl

theorem held_connectStation {ρ : Type} [Radio ρ] (c : Credentials) (s : Supervisor ρ) :
    (s.connectStation c).1.hub.cache.held = s.hub.cache.held := by
  have hheld := s.held_stopProvisioning
  rw [connectStation]
  split <;> rename_i heq <;> obtain ⟨rfl, -⟩ := Prod.mk.inj heq <;> exact hheld

/-- A supervisor and its radio are in the same mode, and what is served of the radio's networks is
what a scan finds. -/
structure Tuned (networks : List Network) (s : Supervisor (DiaryRadio HostRadio)) : Prop where
  lists : s.hub.radio.radio.networks = networks
  station : s.state.isStation = true → s.hub.radio.radio.mode = .station
  accessPoint : s.state = .apActive → s.hub.radio.radio.mode = .accessPoint
  free : s.hub.cache.held = false
  /-- A session serves the networks and waits for no scan. -/
  served : ∀ x, s.session = some x → x.scanning = false ∧
    s.hub.cache.snapshot = ⟨networks.take ScanCache.capacity, true⟩
  /-- No call was refused because the radio was not doing anything. -/
  started : ∀ x ∈ s.hub.radio.diary, x.isNotStarted = false

namespace Tuned

variable {networks : List Network} {s t : Supervisor (DiaryRadio HostRadio)}

/-- What leaves radio, state, cache and session as they were changes nothing. -/
theorem congr (hs : s.Tuned networks) (hradio : t.hub.radio = s.hub.radio)
    (hstate : t.state = s.state) (hcache : t.hub.cache = s.hub.cache)
    (hsession : t.session = s.session) : t.Tuned networks := by
  refine ⟨?_, ?_, ?_, ?_, ?_, ?_⟩
  · exact hradio ▸ hs.lists
  · exact hradio ▸ hstate ▸ hs.station
  · exact hradio ▸ hstate ▸ hs.accessPoint
  · exact hcache ▸ hs.free
  · exact hcache ▸ hsession ▸ hs.served
  · exact hradio ▸ hs.started

/-- Without a session an idle supervisor is in no mode at all. -/
theorem of_idle (hlists : t.hub.radio.radio.networks = networks) (hstate : t.state = .idle)
    (hfree : t.hub.cache.held = false) (hsession : t.session = none)
    (hstarted : ∀ x ∈ t.hub.radio.diary, x.isNotStarted = false) : t.Tuned networks where
  lists := hlists
  station h := by simp [hstate, NetworkState.isStation] at h
  accessPoint h := by simp [hstate] at h
  free := hfree
  served x hx := by simp [hsession] at hx
  started := hstarted

/-! ### Operations -/

/-- Closing the portal leaves the radio alone, and nothing is served any more. -/
theorem stopProvisioning (hs : s.Tuned networks) : s.stopProvisioning.Tuned networks where
  lists := s.radio_stopProvisioning ▸ hs.lists
  station := by
    rw [s.radio_stopProvisioning, s.state_stopProvisioning]
    exact hs.station
  accessPoint := by
    rw [s.radio_stopProvisioning, s.state_stopProvisioning]
    exact hs.accessPoint
  free := s.held_stopProvisioning.trans hs.free
  served x hx := by simp at hx
  started := s.radio_stopProvisioning ▸ hs.started

/-- A session that opens on an access point serves the networks that were just scanned; where the
port is taken there is none. -/
theorem openSession (hlists : s.hub.radio.radio.networks = networks)
    (hmode : s.hub.radio.radio.mode = .accessPoint) (hfree : s.hub.cache.held = false)
    (hsnapshot : s.hub.cache.snapshot = ⟨networks.take ScanCache.capacity, true⟩)
    (hsession : s.session = none) (hstarted : ∀ x ∈ s.hub.radio.diary, x.isNotStarted = false) :
    s.openSession.1.Tuned networks := by
  rw [Supervisor.openSession]
  dsimp only
  split
  · exact of_idle hlists rfl hfree hsession hstarted
  · refine ⟨hlists, ?_, fun _ => hmode, hfree, ?_, hstarted⟩
    · intro h
      simp [withConnectivity, NetworkState.isStation] at h
    · rintro x hx
      obtain rfl : { active := true } = x := Option.some.inj hx
      exact ⟨rfl, hsnapshot⟩

/-- **Opening the portal makes the radio an access point**, or leaves both idle. -/
theorem startProvisioning (hs : s.Tuned networks) : s.startProvisioning.1.Tuned networks := by
  cases hlisten : s.isListening with
  | true =>
      rw [Supervisor.startProvisioning, if_pos hlisten]
      exact hs
  | false =>
      have hradio : s.announced.hub.radio =
          ⟨{ s.hub.radio.radio with mode := .accessPoint }, s.hub.radio.diary⟩ :=
        s.radio_announced
      -- the access point is up before the scan, so the scan is not refused
      have hon : s.announced.hub.radio.radio.mode ≠ .off := by
        rw [hradio]
        simp
      have hscan := DiaryRadio.scan_of_on hon
      have hheld : s.announced.hub.cache.held = false := hs.stopProvisioning.free
      have hfound := Hub.refreshCache_of_found hheld (congrArg Prod.snd hscan)
      rw [startProvisioning_of_ok hlisten rfl, hfound, hscan, hradio]
      refine openSession hs.lists rfl hheld ?_ s.session_stopProvisioning ?_
      · rw [← hs.lists]
      · exact DiaryNote.started_concat hs.started rfl

/-- **Joining a network puts the radio into station mode**, or leaves the supervisor idle. -/
theorem connectStation (hs : s.Tuned networks) (c : Credentials) :
    (s.connectStation c).1.Tuned networks := by
  have hradio : (s.connectStation c).1.hub.radio =
      ⟨(Radio.join c s.hub.radio.radio).radio, s.hub.radio.diary⟩ := radio_connectStation c s
  have hjoin := HostRadio.radio_join c s.hub.radio.radio
  have hresult := HostRadio.result_join c s.stopProvisioning.hub.radio.radio
  have hfree := (held_connectStation c s).trans hs.free
  have hsession := session_connectStation c s
  have hstarted : ∀ x ∈ (s.connectStation c).1.hub.radio.diary, x.isNotStarted = false := by
    rw [hradio]
    exact hs.started
  cases hvalid : c.isValid with
  | false =>
      -- the radio may still be an access point, but an idle supervisor expects no mode of it
      rw [hvalid, if_neg Bool.false_ne_true] at hjoin hresult
      obtain ⟨-, hstate, -⟩ := connectStation_of_error (s := s) hresult
      refine of_idle ?_ hstate hfree hsession hstarted
      rw [hradio, hjoin]
      exact hs.lists
  | true =>
      rw [hvalid, if_pos rfl] at hjoin hresult
      obtain ⟨-, hstate, -⟩ := connectStation_of_ok (s := s) hresult
      refine ⟨?_, ?_, ?_, hfree, ?_, hstarted⟩
      · rw [hradio, hjoin]
        exact hs.lists
      · rw [hradio, hjoin]
        exact fun _ => rfl
      · simp [hstate]
      · simp [hsession]

theorem ensureStation (hs : s.Tuned networks) (c : Credentials) :
    (s.ensureStation c).1.Tuned networks := by
  rw [Supervisor.ensureStation]
  split
  · exact hs
  · exact hs.connectStation c

/-- **A restart switches the radio off and makes it an access point again**, or leaves both idle. -/
theorem clearAndRestart (hs : s.Tuned networks) : s.clearAndRestart.Tuned networks := by
  have hcleared : s.cleared.Tuned networks := hs.congr rfl rfl rfl rfl
  have hclosed := hcleared.stopProvisioning
  have hoff : (s.cleared.stopProvisioning.call Radio.stop).1.toIdle.Tuned networks :=
    of_idle hclosed.lists rfl hclosed.free s.cleared.session_stopProvisioning hclosed.started
  exact hoff.startProvisioning

/-! ### Events -/

/-- **What the radio reports leaves the two together**: a station stays a station, and its radio
joins again, or both start anew. -/
theorem handleLink (hs : s.Tuned networks) (hagrees : s.Agrees) (e : LinkEvent) :
    (s.handleLink e).Tuned networks := by
  cases hstation : s.state.isStation with
  | false =>
      rw [handleLink_of_not_isStation hstation]
      exact hs
  | true =>
      have hmode := hs.station hstation
      have hnone : s.session = none := by
        refine hagrees.session_none ?_
        intro heq
        simp [heq, NetworkState.isStation] at hstation
      cases e with
      | stationStarted | clientJoined | clientLeft | clientGotIp => exact hs
      | stationConnected | gotIp =>
          rw [Supervisor.handleLink, if_pos hstation]
          refine ⟨hs.lists, fun _ => hmode, ?_, hs.free, ?_, hs.started⟩
          · simp [withConnectivity]
          · simp [withConnectivity, hnone]
      | stationDisconnected reason =>
          rw [Supervisor.handleLink, if_pos hstation, linkLost]
          split
          · exact hs.clearAndRestart
          · let lost := { s with state := .stationDisconnected }.withConnectivity .provisioning
            have hradio : (lost.call Radio.rejoin).1.hub.radio =
                s.hub.radio.note (.rejoined (.ok ())) := DiaryRadio.radio_rejoin_of_station hmode
            refine ⟨?_, ?_, ?_, hs.free, ?_, ?_⟩
            · rw [hradio]
              exact hs.lists
            · rw [hradio]
              exact fun _ => hmode
            · simp [call, withConnectivity]
            · simp [call, withConnectivity, hnone]
            · rw [hradio]
              exact DiaryNote.started_concat hs.started rfl

theorem handleEvent (hs : s.Tuned networks) (hagrees : s.Agrees) (e : Event) :
    (s.handleEvent e).Tuned networks := by
  cases e with
  | submitted c => exact hs.connectStation c
  | link e => exact hs.handleLink hagrees e

/-- Draining the queue leaves the two together, event by event. -/
theorem drain (hs : s.Tuned networks) (hagrees : s.Agrees) : s.drain.Tuned networks := by
  have hboth : s.drain.Tuned networks ∧ s.drain.Agrees := by
    refine drain_induct (P := fun t => t.Tuned networks ∧ t.Agrees) ?_ ⟨hs, hagrees⟩
    rintro t e rest - ⟨ht, htagrees⟩
    have hrest : (t.withEvents rest).Tuned networks := ht.congr rfl rfl rfl rfl
    have hagreed : (t.withEvents rest).Agrees := htagrees.congr ⟨rfl, rfl, rfl, rfl⟩
    exact ⟨hrest.handleEvent hagreed e, hagreed.handleEvent e⟩
  exact hboth.1

/-! ### Requests -/

/-- A portal with the scans of the session leaves the two together. -/
theorem sameScans (hs : s.Tuned networks) {x : Session} (hx : s.session = some x)
    {p : Portal (DiaryRadio HostRadio)} (h : Portal.SameScans ⟨s.hub, x, s.address⟩ p) :
    Tuned networks { s with hub := p.hub, session := some p.session } := by
  obtain ⟨hidle, hsnapshot⟩ := hs.served x hx
  refine ⟨?_, ?_, ?_, ?_, ?_, ?_⟩
  · exact h.radio_eq ▸ hs.lists
  · exact h.radio_eq ▸ hs.station
  · exact h.radio_eq ▸ hs.accessPoint
  · exact h.cache_eq ▸ hs.free
  · intro y hy
    obtain rfl : p.session = y := Option.some.inj hy
    exact ⟨h.scanning_eq.trans hidle, h.cache_eq ▸ hsnapshot⟩
  · exact h.radio_eq ▸ hs.started

/-- A scan that is made for a client finds what is served already. -/
theorem refresh_of_session (hs : s.Tuned networks) (hagrees : s.Agrees) {x : Session}
    (hx : s.session = some x) :
    Portal.refresh ⟨s.hub, x, s.address⟩ =
      (⟨{ s.hub with radio := s.hub.radio.note (.scanned (.found networks)) }, x, s.address⟩,
        true) := by
  obtain ⟨hidle, hsnapshot⟩ := hs.served x hx
  have hportal : s.state = .apActive := hagrees.session (by rw [hx]; rfl)
  have hon : s.hub.radio.radio.mode ≠ .off := by simp [hs.accessPoint hportal]
  have hscan := DiaryRadio.scan_of_on hon
  rw [hs.lists] at hscan
  have hreply : (Radio.scan s.hub.radio).2 ≠ .pending := by simp [hscan]
  rw [Portal.refresh_of_idle hidle hreply]
  dsimp only
  rw [Hub.refreshCache_of_found hs.free (congrArg Prod.snd hscan), hscan, ← hsnapshot]
  rfl

/-- **A request leaves the two together**, whatever it asks for. -/
theorem handle (hs : s.Tuned networks) (hagrees : s.Agrees) (r : Request) :
    (s.handle r).1.Tuned networks := by
  cases hl : s.isListening with
  | false =>
      rw [handle_of_not_isListening hl]
      exact hs
  | true =>
      obtain ⟨x, hx, hactive⟩ := isListening_iff.mp hl
      rw [handle_of_session hx hactive]
      rcases Portal.sameScans_handle ⟨s.hub, x, s.address⟩ r with hsame | hscanned
      · exact hs.sameScans hx hsame
      · rw [hs.refresh_of_session hagrees hx] at hscanned
        let noted : Supervisor (DiaryRadio HostRadio) :=
          { s with hub := { s.hub with
              radio := s.hub.radio.note (.scanned (.found networks)) } }
        have hnoted : noted.Tuned networks := ⟨hs.lists, hs.station, hs.accessPoint, hs.free,
          hs.served, DiaryNote.started_concat hs.started rfl⟩
        exact hnoted.sameScans hx hscanned

/-- A portal that is open and not claimed lists the networks of its radio. -/
theorem handle_scan (hs : s.Tuned networks) (hagrees : s.Agrees) {x : Session}
    (hx : s.session = some x) (hactive : x.active = true) (hunclaimed : x.submitted = false)
    {r : Request} (hmethod : r.method = "GET") (hpath : r.route.1 = "/local-wifi") :
    (s.handle r).2 = some (listingOf networks (!Query.refreshRequested r.route.2)) := by
  obtain ⟨-, hsnapshot⟩ := hs.served x hx
  have hpopulated : s.hub.cache.snapshot.populated = true := by rw [hsnapshot]
  rw [handle_of_session hx hactive, Portal.handle_of_scan hunclaimed hmethod hpath,
    ← Portal.listing_eq_listingOf]
  cases Query.refreshRequested r.route.2 with
  | true =>
      have hrefresh := hs.refresh_of_session hagrees hx
      rw [Portal.scan_of_wanted hs.free (.inl rfl), hrefresh, ← hsnapshot]
      exact congrArg some (Portal.listed_of_free hs.free true)
  | false =>
      rw [Portal.scan_of_populated hs.free hpopulated, ← hsnapshot]

end Tuned

/-! ### Calls in any order -/

/-- Whether a call leaves the radio and the snapshot to the supervisor and its portal. -/
def Spares {ρ : Type} (s : Supervisor ρ) : SupervisorCall ρ → Prop
  | .meanwhile radio _ cache _ => radio = s.hub.radio ∧ cache = s.hub.cache
  | .startProvisioning | .stopProvisioning | .connectStation _ | .ensureStation _
  | .clearAndRestart | .processEvents | .queue _ | .request _ | .scanned _ => True

/-- Whether calls, in their order, leave the radio and the snapshot to the supervisor and its
portal. -/
def SparesAll {ρ : Type} [Radio ρ] (s : Supervisor ρ) : List (SupervisorCall ρ) → Prop
  | [] => True
  | call :: calls => s.Spares call ∧ (s.perform call).SparesAll calls

variable {networks : List Network} {s : Supervisor (DiaryRadio HostRadio)}

/-- A scan that has come to its end before has no other end. -/
theorem Tuned.finishScan_eq (hs : s.Tuned networks) (reply : ScanReply) :
    s.finishScan reply = s := by
  rw [finishScan]
  split
  · rename_i x hx
    have hdone : Portal.finishScan ⟨s.hub, x, s.address⟩ reply = ⟨s.hub, x, s.address⟩ := by
      rw [Portal.finishScan, if_neg (by simp [(hs.served x hx).1])]
    dsimp only
    rw [hdone, ← hx]
  · rfl

/-- **Every call leaves supervisor and radio in the same mode.** -/
theorem Tuned.perform (hs : s.Tuned networks) (hagrees : s.Agrees)
    {call : SupervisorCall (DiaryRadio HostRadio)} (hcall : s.Spares call) :
    (s.perform call).Tuned networks := by
  cases call with
  | startProvisioning => exact hs.startProvisioning
  | stopProvisioning => exact hs.stopProvisioning
  | connectStation c => exact hs.connectStation c
  | ensureStation c => exact hs.ensureStation c
  | clearAndRestart => exact hs.clearAndRestart
  | processEvents => exact hs.drain hagrees
  | queue events => exact hs.congr rfl rfl rfl rfl
  | request r => exact hs.handle hagrees r
  | scanned reply =>
      rw [Supervisor.perform, hs.finishScan_eq]
      exact hs
  | meanwhile radio store cache port => exact hs.congr hcall.1 rfl hcall.2 rfl

theorem Tuned.performAll (hs : s.Tuned networks) (hagrees : s.Agrees)
    {calls : List (SupervisorCall (DiaryRadio HostRadio))} (hcalls : s.SparesAll calls) :
    (s.performAll calls).Tuned networks := by
  induction calls generalizing s with
  | nil => exact hs
  | cons call calls ih =>
      exact ih (hs.perform hagrees hcalls.1) (hagrees.perform call) hcalls.2

/-- **Supervisor and radio are in the same mode after any calls**, whatever the store and the port
refuse. The radio never refuses a scan or a renewed join, and a portal that is open and not claimed
lists the first twenty networks of its radio, scanned for the client exactly if it asks for that. -/
theorem tuned_performAll (settings : Settings) (radio : HostRadio) (store : Store) (port : Faults)
    (calls : List (SupervisorCall (DiaryRadio HostRadio))) :
    let booted : Supervisor (DiaryRadio HostRadio) :=
      { Boot.supervisor settings { radio } store with port }
    let s := booted.performAll calls
    booted.SparesAll calls →
      (s.state.isStation = true → s.hub.radio.radio.mode = .station) ∧
      (s.state = .apActive → s.hub.radio.radio.mode = .accessPoint) ∧
      (.scanned (.failed .notStarted) ∉ s.hub.radio.diary ∧
        .rejoined (.error .notStarted) ∉ s.hub.radio.diary) ∧
      ∀ (x : Session) (r : Request), s.session = some x → x.active = true →
        x.submitted = false → r.method = "GET" → r.route.1 = "/local-wifi" →
          (s.handle r).2 = some (listingOf radio.networks (!Query.refreshRequested r.route.2)) := by
  intro booted s hcalls
  have hbooted : booted.Tuned radio.networks :=
    .of_idle rfl rfl rfl rfl (by simp [booted, Boot.supervisor])
  have hagrees : booted.Agrees := .of_disconnected rfl rfl rfl rfl
  have hs : s.Tuned radio.networks := hbooted.performAll hagrees hcalls
  refine ⟨hs.station, hs.accessPoint, ⟨?_, ?_⟩, ?_⟩
  · exact fun hmem => absurd (hs.started _ hmem) (by decide)
  · exact fun hmem => absurd (hs.started _ hmem) (by decide)
  · intro x r hx hactive hunclaimed hmethod hpath
    exact hs.handle_scan (hagrees.performAll calls) hx hactive hunclaimed hmethod hpath

/-- The port is taken when the portal opens for the first time, and the radio is switched off. Then
the device joins a network, loses it, joins it again and is rejected by it. The portal that opens
now scans for a client. -/
theorem tuned_performAll_of_rejection :
    let home : Network := ⟨"Home", -40, 6, true⟩
    let radio : HostRadio := { networks := [home] }
    let port : Faults := { coming := [true] }
    let calls : List (SupervisorCall (DiaryRadio HostRadio)) :=
      [.startProvisioning, .connectStation ⟨"Home", ""⟩, .processEvents,
        .queue [.link (.stationDisconnected 8)], .processEvents,
        .queue [.link (.stationDisconnected 15)], .processEvents]
    let request : Request := { method := "GET", target := "/local-wifi?refresh=true" }
    let booted : Supervisor (DiaryRadio HostRadio) :=
      { Boot.supervisor {} { radio } (.memory {}) with port }
    let s := booted.performAll calls
    ((booted.performAll (calls.take 1)).hub.radio.radio.mode = .off ∧
      (booted.performAll (calls.take 5)).hub.radio.radio.mode = .station) ∧
    s.hub.radio.radio.mode = .accessPoint ∧
    .rejoined (.error .notStarted) ∉ s.hub.radio.diary ∧
    (s.handle request).2.map Response.line =
      some ("200 \x7b\"cached\":false,\"count\":1,\"networks\":[" ++
        "\x7b\"channel\":6,\"rssi\":-40,\"secure\":true,\"ssid\":\"Home\"\x7d]\x7d") := by
  intro home radio port calls request booted s
  have hstate : s.state = .apActive := by decide +kernel
  have hsession : s.session = some { active := true } := by decide +kernel
  have hpath : request.route.1 = "/local-wifi" := by decide +kernel
  have hspares : booted.SparesAll calls :=
    ⟨trivial, trivial, trivial, trivial, trivial, trivial, trivial, trivial⟩
  obtain ⟨-, haccessPoint, ⟨-, hrejoins⟩, hlists⟩ :=
    tuned_performAll {} radio (.memory {}) port calls hspares
  refine ⟨by decide +kernel, haccessPoint hstate, hrejoins, ?_⟩
  have hwanted : Query.refreshRequested request.route.2 = true := by decide +kernel
  rw [hlists _ request hsession rfl rfl rfl hpath, hwanted]
  decide +kernel

end Supervisor

end Onboarding
