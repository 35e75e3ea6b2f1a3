import Onboarding.Proofs.Store.Lasting
import Onboarding.Proofs.Supervisor.Calls
import Onboarding.Proofs.Supervisor.Queue

/-!
# When a supervisor joins a network

A supervisor joins a network for two reasons: credentials were submitted, or it is asked for a
station connection. In either case there is none yet, nor an attempt, and the credentials are those
of the stored record. From then on it only joins the same network again, until it switches the radio
off. It is a disciplined user of its radio (`Supervisor.Disciplined`).

Credentials are submitted long before they are used. Between the two the portal is closed and no
station connection exists, so nobody replaces the record or clears it.

## Main results

* `Supervisor.Disciplined.connectStation`, `Supervisor.Disciplined.clearAndRestart`: the operations
  that matter keep a supervisor disciplined.
* `Supervisor.Disciplined.drain`, `Supervisor.Disciplined.handle`: so do drains and requests.
-/

namespace Onboarding

namespace Supervisor

variable {ρ : Type}

/-- A network may be joined with some credentials: no station connection exists or is being
attempted, and the credentials are those of the stored record. -/
structure MayJoin (s : Supervisor ρ) (c : Credentials) : Prop where
  free : s.state.isStation = false
  record : ∃ r, s.hub.store.loadRecord = .ok (some r) ∧ r.credentials = c

/-- What is demanded of a call, where `turn` are the single turns that things take: a network is
joined as the first call of a turn that begins when it may be joined, and as long as the radio is
engaged it only joins the same network again or is switched off. -/
def Proper (turn : Supervisor (LoggedRadio ρ) → Supervisor (LoggedRadio ρ) → Prop)
    (earlier : List RadioNote) (x : RadioNote) : Prop :=
  (∀ c accepted, x = .call (.join c accepted) →
    ∃ m n, turn m n ∧ m.calls = earlier ∧ earlier ++ [x] <+: n.calls ∧ m.MayJoin c) ∧
  (RadioNote.Engaged earlier → x.isRejoin = true ∨ x.isStop = true)

/-- A supervisor that makes proper calls only, with all that it has to keep in mind for it. -/
structure Disciplined (turn : Supervisor (LoggedRadio ρ) → Supervisor (LoggedRadio ρ) → Prop)
    (s : Supervisor (LoggedRadio ρ)) : Prop where
  unstaged : s.hub.store.IsUnstaged
  /-- A station connection has no session beside it, nothing waits, and there is a record. -/
  station : s.state.isStation = true →
    s.session = none ∧ s.submissions = [] ∧ s.hub.store.isProvisioned = .ok true
  /-- Credentials that wait may be joined with, and nobody can submit others. -/
  waiting : s.submissions = [] ∨
    ∃ c, s.submissions = [c] ∧ s.MayJoin c ∧ s.isListening = false
  proper : Throughout (Proper turn) s.calls
  /-- The radio is engaged for a station connection only. -/
  engaged : RadioNote.Engaged s.calls → s.state.isStation = true

namespace Disciplined

variable {turn : Supervisor (LoggedRadio ρ) → Supervisor (LoggedRadio ρ) → Prop}
  {s t : Supervisor (LoggedRadio ρ)}

/-- More turns allow more. -/
theorem mono {turn' : Supervisor (LoggedRadio ρ) → Supervisor (LoggedRadio ρ) → Prop}
    (hs : s.Disciplined turn) (h : ∀ m n, turn m n → turn' m n) : s.Disciplined turn' where
  unstaged := hs.unstaged
  station := hs.station
  waiting := hs.waiting
  engaged := hs.engaged
  proper := by
    refine hs.proper.mono ?_
    rintro earlier x ⟨hjoin, hengaged⟩
    refine ⟨?_, hengaged⟩
    intro c accepted hx
    obtain ⟨m, n, hturn, hcall⟩ := hjoin c accepted hx
    exact ⟨m, n, h m n hturn, hcall⟩

/-- Without a station connection the radio is not engaged. -/
theorem not_engaged (hs : s.Disciplined turn) (h : s.state.isStation = false) :
    ¬RadioNote.Engaged s.calls := by
  intro hengaged
  simp [hs.engaged hengaged] at h

/-- While the portal accepts requests there is no station connection, and nothing waits. -/
theorem of_isListening (hs : s.Disciplined turn) (h : s.isListening = true) :
    s.state.isStation = false ∧ s.submissions = [] := by
  refine ⟨?_, ?_⟩
  · by_contra hstation
    obtain ⟨hnone, -⟩ := hs.station (by simpa using hstation)
    simp [isListening, hnone] at h
  · rcases hs.waiting with hquiet | ⟨c, -, -, hlisten⟩
    · exact hquiet
    · simp [hlisten] at h

/-- Without a station connection, and with nothing waiting, calls are all that is to be minded. -/
theorem of_free (hunstaged : t.hub.store.IsUnstaged) (hstate : t.state.isStation = false)
    (hquiet : t.submissions = []) (hproper : Throughout (Proper turn) t.calls)
    (hengaged : ¬RadioNote.Engaged t.calls) : t.Disciplined turn where
  unstaged := hunstaged
  station := by
    intro h
    simp [hstate] at h
  waiting := .inl hquiet
  proper := hproper
  engaged := fun h => absurd h hengaged

/-- What calls nobody, and keeps the frame, the kind of the state and the portal, keeps the
discipline. -/
theorem congr (hs : s.Disciplined turn) (hk : s.Keeps t) (hcalls : t.calls = s.calls)
    (hstate : t.state.isStation = s.state.isStation)
    (hsession : s.session = none → t.session = none)
    (hlisten : s.isListening = false → t.isListening = false) : t.Disciplined turn where
  unstaged := hk.store_eq ▸ hs.unstaged
  station := by
    intro h
    rw [hstate] at h
    obtain ⟨hnone, hquiet, hflag⟩ := hs.station h
    exact ⟨hsession hnone, hk.submissions_eq.trans hquiet, hk.store_eq ▸ hflag⟩
  waiting := by
    rcases hs.waiting with hquiet | ⟨c, hqueued, hmay, hclosed⟩
    · exact .inl (hk.submissions_eq.trans hquiet)
    · refine .inr ⟨c, hk.submissions_eq.trans hqueued, ⟨hstate.trans hmay.free, ?_⟩,
        hlisten hclosed⟩
      rw [hk.store_eq]
      exact hmay.record
  proper := hcalls ▸ hs.proper
  engaged := by
    rw [hcalls, hstate]
    exact hs.engaged

/-- Link events can be queued. -/
theorem push (hs : s.Disciplined turn) {es : List Event}
    (h : es.filterMap Event.credentials? = []) : (s.push es).Disciplined turn :=
  hs.congr (keeps_push h s) rfl rfl id id

/-- Calls that join nothing are proper for a radio that is not engaged. -/
theorem proper_of_joinless {log added : List RadioNote} (hlog : ¬RadioNote.Engaged log)
    (hadded : ∀ x ∈ added, x.isJoin = false) :
    Throughout (fun earlier x => Proper turn (log ++ earlier) x) added := by
  rintro earlier x later rfl
  have hearlier : ∀ y ∈ earlier, y.isJoin = false := fun y hy => hadded y (by simp [hy])
  refine ⟨?_, fun h => absurd h (RadioNote.not_engaged_append hlog hearlier)⟩
  rintro c accepted rfl
  have hjoin := hadded (.call (.join c accepted)) (by simp)
  simp [RadioNote.isJoin] at hjoin

end Disciplined

variable [Radio ρ]

/-! ### Operations -/

namespace Disciplined

variable {turn : Supervisor (LoggedRadio ρ) → Supervisor (LoggedRadio ρ) → Prop}
  {s : Supervisor (LoggedRadio ρ)}

/-- The portal may be opened while there is no station connection and nothing waits. -/
theorem startProvisioning (hs : s.Disciplined turn) (hstate : s.state.isStation = false)
    (hquiet : s.submissions = []) : s.startProvisioning.1.Disciplined turn := by
  have hk := s.keeps_startProvisioning
  have hnot := hs.not_engaged hstate
  obtain ⟨added, hcalls, hjoinless⟩ := s.calls_startProvisioning
  refine of_free (hk.store_eq ▸ hs.unstaged) (isStation_startProvisioning hstate)
    (hk.submissions_eq.trans hquiet) ?_ ?_
  · rw [hcalls]
    exact hs.proper.append (proper_of_joinless hnot hjoinless)
  · rw [hcalls]
    exact RadioNote.not_engaged_append hnot hjoinless

omit [Radio ρ] in
/-- The radio may be switched off at any time. -/
theorem proper_stop (earlier : List RadioNote) (accepted : Bool) :
    Proper turn earlier (.call (.stop accepted)) :=
  ⟨by simp, fun _ => .inr rfl⟩

/-- **The record may be cleared and the portal opened** at any time when nothing waits. -/
theorem clearAndRestart (hs : s.Disciplined turn) (hquiet : s.submissions = []) :
    s.clearAndRestart.Disciplined turn := by
  have hk := s.keeps_switchedOff
  have hunstaged : s.cleared.hub.store.IsUnstaged := Store.isUnstaged_perform _ _
  have hquiet' : s.switchedOff.submissions = [] := hk.submissions_eq.trans hquiet
  obtain ⟨accepted, hcalls⟩ := s.calls_switchedOff
  have hoff : s.switchedOff.Disciplined turn := by
    refine of_free (hk.store_eq ▸ hunstaged) rfl hquiet' ?_ ?_
    · rw [hcalls]
      exact hs.proper.concat (proper_stop _ _)
    · rw [hcalls]
      exact RadioNote.not_engaged_stop _ _
  rw [clearAndRestart_eq]
  exact hoff.startProvisioning rfl hquiet'

/-- **A network is joined properly** as the first call of a turn that begins when it may be. -/
theorem connectStation (hs : s.Disciplined turn) (hquiet : s.submissions = []) {c : Credentials}
    (hmay : s.MayJoin c) {m n : Supervisor (LoggedRadio ρ)} (hturn : turn m n)
    (hbefore : m.calls = s.calls) (hafter : (s.connectStation c).1.calls <+: n.calls)
    (hmay' : m.MayJoin c) : (s.connectStation c).1.Disciplined turn := by
  have hk := s.keeps_connectStation c
  have hcalls := s.calls_connectStation c
  have hnot := hs.not_engaged hmay.free
  have hquiet' := hk.submissions_eq.trans hquiet
  have hproper : Throughout (Proper turn) (s.connectStation c).1.calls := by
    rw [hcalls] at hafter ⊢
    refine hs.proper.concat ⟨?_, fun h => absurd h hnot⟩
    intro c' accepted heq
    simp only [RadioNote.call.injEq, RadioCall.join.injEq] at heq
    obtain ⟨rfl, -⟩ := heq
    exact ⟨m, n, hturn, hbefore, hafter, hmay'⟩
  cases hresult : (Radio.join c s.stopProvisioning.hub.radio).result with
  | ok _ =>
      obtain ⟨-, hstate, hsession⟩ := connectStation_of_ok hresult
      obtain ⟨r, hrecord, -⟩ := hmay.record
      have hstation : (s.connectStation c).1.state.isStation = true := by rw [hstate]; rfl
      refine ⟨hk.store_eq ▸ hs.unstaged, fun _ => ⟨hsession, hquiet', ?_⟩, .inl hquiet', hproper,
        fun _ => hstation⟩
      rw [hk.store_eq]
      exact Store.isProvisioned_of_loadRecord hrecord
  | error e =>
      obtain ⟨-, hstate, -⟩ := connectStation_of_error hresult
      refine of_free (hk.store_eq ▸ hs.unstaged) (by rw [hstate]; rfl) hquiet' hproper ?_
      rw [hcalls, hresult, RadioNote.engaged_join hnot]
      simp [Except.isOk, Except.toBool]

/-- A lost link is joined again, or given up with its record. -/
theorem linkLost (hs : s.Disciplined turn) (hstation : s.state.isStation = true)
    (reason : UInt16) : (s.linkLost reason).Disciplined turn := by
  obtain ⟨hsession, hquiet, hflag⟩ := hs.station hstation
  rw [Supervisor.linkLost]
  split
  · exact hs.clearAndRestart hquiet
  · let lost := { s with state := .stationDisconnected }.withConnectivity .provisioning
    have hlost : s.Keeps lost := ⟨rfl, rfl, rfl, id⟩
    have hk : s.Keeps (lost.call Radio.rejoin).1 := hlost.trans (lost.keeps_call Radio.rejoin)
    have hcalls : (lost.call Radio.rejoin).1.calls =
        s.calls ++ [.call (.rejoin (Radio.rejoin s.hub.radio).result.isOk)] := rfl
    refine ⟨hk.store_eq ▸ hs.unstaged, fun _ => ⟨hsession, ?_, hk.store_eq ▸ hflag⟩, .inl ?_, ?_,
      fun _ => rfl⟩
    · exact hk.submissions_eq.trans hquiet
    · exact hk.submissions_eq.trans hquiet
    · rw [hcalls]
      exact hs.proper.concat ⟨by simp, fun _ => .inl rfl⟩

/-- What the radio reports keeps the discipline. -/
theorem handleLink (hs : s.Disciplined turn) (e : LinkEvent) :
    (s.handleLink e).Disciplined turn := by
  cases hstation : s.state.isStation with
  | false =>
      rw [handleLink_of_not_isStation hstation]
      exact hs
  | true =>
      cases e with
      | stationStarted | clientJoined | clientLeft | clientGotIp => exact hs
      | stationConnected | gotIp =>
          rw [Supervisor.handleLink, if_pos hstation]
          exact hs.congr ⟨rfl, rfl, rfl, id⟩ rfl hstation.symm id id
      | stationDisconnected reason =>
          rw [Supervisor.handleLink, if_pos hstation]
          exact hs.linkLost hstation reason

/-- **A submission is joined with** at the moment when it is handled, and then nothing waits. -/
theorem submitted {t : Supervisor (LoggedRadio ρ)} (ht : t.Disciplined turn)
    (hturn : turn t t.handleNext) {c : Credentials} {rest : List Event}
    (hcons : t.hub.inbox.events = .submitted c :: rest) :
    ((t.withEvents rest).connectStation c).1.Disciplined turn ∧
      ((t.withEvents rest).connectStation c).1.submissions = [] := by
  have hqueue : t.submissions = c :: (t.withEvents rest).submissions := submissions_withEvents hcons
  rcases ht.waiting with hnone | ⟨c', hone, hmay, -⟩
  · simp [hnone] at hqueue
  · rw [hone] at hqueue
    obtain ⟨rfl, hempty⟩ := List.cons.inj hqueue
    have hquiet : (t.withEvents rest).submissions = [] := hempty.symm
    have hrest : (t.withEvents rest).Disciplined turn :=
      of_free ht.unstaged hmay.free hquiet ht.proper (ht.not_engaged hmay.free)
    have hmay' : (t.withEvents rest).MayJoin c' := ⟨hmay.free, hmay.record⟩
    have hnext : t.handleNext = ((t.withEvents rest).connectStation c').1 :=
      handleNext_of_cons hcons
    refine ⟨hrest.connectStation hquiet hmay' hturn rfl ?_ hmay, ?_⟩
    · exact hnext ▸ List.prefix_refl _
    · exact ((t.withEvents rest).keeps_connectStation c').submissions_eq.trans hquiet

/-- **Draining keeps the discipline**, event by event. -/
theorem drain (hs : s.Disciplined turn)
    (hturn : s.submissions = [] ∨ ∀ k, turn (s.after k) (s.after (k + 1))) :
    s.drain.Disciplined turn := by
  -- either nothing waits any more, or this is a moment of the drain
  refine (drain_induct (P := fun t => t.Disciplined turn ∧
    (t.submissions = [] ∨
      (∃ k, t = s.after k) ∧ ∀ k, turn (s.after k) (s.after (k + 1)))) ?_ ?_).1
  · rintro t e rest hcons ⟨ht, hwhere⟩
    cases e with
    | submitted c =>
        rcases hwhere with hnone | ⟨⟨k, rfl⟩, hall⟩
        · rw [submissions_withEvents hcons] at hnone
          simp [Event.credentials?] at hnone
        · obtain ⟨hjoined, hquiet⟩ := ht.submitted (hall k) hcons
          exact ⟨hjoined, .inl hquiet⟩
    | link e =>
        have hqueue : t.submissions = (t.withEvents rest).submissions :=
          submissions_withEvents hcons
        have hrest : (t.withEvents rest).Disciplined turn :=
          ht.congr ⟨rfl, hqueue.symm, rfl, id⟩ rfl rfl id id
        refine ⟨hrest.handleLink e, ?_⟩
        rcases hwhere with hnone | ⟨⟨k, rfl⟩, hall⟩
        · left
          rw [hqueue] at hnone
          rcases (t.withEvents rest).keeps_handleEvent (.link e) with hk | hk
          · exact hk.submissions_eq.trans hnone
          · exact hk.submissions_eq.trans hnone
        · exact .inr ⟨⟨k + 1, (handleNext_of_cons hcons).symm⟩, hall⟩
  · exact ⟨hs, hturn.imp id fun hall => ⟨⟨0, rfl⟩, hall⟩⟩

omit [Radio ρ] in
/-- Scanned networks are no matter of discipline. -/
theorem scansOnly {t : Supervisor (LoggedRadio ρ)} (hs : s.Disciplined turn) (h : s.ScansOnly t)
    (hcalls : t.calls = s.calls) : t.Disciplined turn := by
  obtain ⟨radio, cache, scanning, rfl⟩ := h
  refine hs.congr ⟨rfl, rfl, rfl, id⟩ hcalls rfl ?_ ?_
  · intro hnone
    rw [hnone, Option.map_none]
  · intro hclosed
    rw [isListening] at hclosed ⊢
    rw [Option.any_map]
    exact hclosed

omit [Radio ρ] in
/-- A scan that ends keeps the discipline. -/
theorem finishScan (hs : s.Disciplined turn) (reply : ScanReply) :
    (s.finishScan reply).Disciplined turn :=
  hs.scansOnly (s.finishScan_scansOnly reply) (congrArg LoggedRadio.log (s.radio_finishScan reply))

/-- **A request keeps the discipline**: a submission that is saved is the record from then on. -/
theorem handle (hs : s.Disciplined turn) (r : Request) : (s.handle r).1.Disciplined turn := by
  cases hl : s.isListening with
  | false =>
      rw [handle_of_not_isListening hl]
      exact hs
  | true =>
      obtain ⟨hstate, hquiet⟩ := hs.of_isListening hl
      have hnot := hs.not_engaged hstate
      obtain ⟨added, hcalls, hjoinless⟩ := s.calls_handle r
      have hproper : Throughout (Proper turn) (s.handle r).1.calls := by
        rw [hcalls]
        exact hs.proper.append (proper_of_joinless hnot hjoinless)
      have hengaged : ¬RadioNote.Engaged (s.handle r).1.calls := by
        rw [hcalls]
        exact RadioNote.not_engaged_append hnot hjoinless
      obtain ⟨x, hx, hactive⟩ := isListening_iff.mp hl
      rw [handle_of_session hx hactive] at hproper hengaged ⊢
      cases Portal.outcome ⟨s.hub, x, s.address⟩ r with
      | refused _ handle_eq =>
          rw [handle_eq] at hproper hengaged ⊢
          exact of_free hs.unstaged hstate hquiet hproper hengaged
      | plain _ _ scans =>
          obtain ⟨radio, cache, scanning, hscan⟩ := scans
          rw [hscan] at hproper hengaged ⊢
          exact of_free hs.unstaged hstate hquiet hproper hengaged
      | unsaved q store e _ _ save handle_eq =>
          have hunstaged : store.IsUnstaged := Store.isUnstaged_of_perform save
          rw [handle_eq] at hproper hengaged ⊢
          exact of_free hunstaged hstate hquiet hproper hengaged
      | saved q store _ _ save handle_eq =>
          have hunstaged : store.IsUnstaged := Store.isUnstaged_of_perform save
          have hrecord := Store.loadRecord_saveRecord save
          rw [handle_eq] at hproper hengaged ⊢
          refine ⟨hunstaged, fun h => absurd h (by simp [hstate]), ?_, hproper,
            fun h => absurd h hengaged⟩
          cases hclosed : s.hub.inbox.closed with
          | true =>
              -- nobody reads the queue any more, so nothing is queued
              refine .inl (Eq.trans ?_ hquiet)
              simp [submissions, Inbox.push, hclosed]
          | false =>
              refine .inr ⟨q.credentials, ?_, ⟨hstate, _, hrecord, rfl⟩, rfl⟩
              have hqueue : s.hub.inbox.events.filterMap Event.credentials? = [] := hquiet
              simp [submissions, Inbox.submissions, Inbox.push, hclosed, hqueue,
                Event.credentials?]

omit [Radio ρ] in
/-- Certificates may be stored whenever nothing waits. -/
theorem saveCertificates (hs : s.Disciplined turn) (hquiet : s.submissions = [])
    (c : Certificates) :
    ({ s with hub := (s.hub.withStore (Store.saveCertificates c)).1 } :
      Supervisor (LoggedRadio ρ)).Disciplined turn where
  unstaged := Store.isUnstaged_perform _ _
  station := by
    intro hstation
    obtain ⟨hsession, -, hflag⟩ := hs.station hstation
    exact ⟨hsession, hquiet, (Store.isProvisioned_saveCertificates hs.unstaged c).trans hflag⟩
  waiting := .inl hquiet
  proper := hs.proper
  engaged := hs.engaged

end Disciplined

end Supervisor

end Onboarding
