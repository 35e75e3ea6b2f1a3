import Onboarding.Proofs.Radio.Host
import Onboarding.Proofs.Supervisor.Agreement
import Onboarding.Proofs.Supervisor.Queue

/-!
# Draining over a host's radio settles

A host's radio answers at once: with every join, and with every lost link that is joined again, it
queues the outcome. So no supervisor over it is left waiting (`Supervisor.Answered`): in station
mode the device is connected, or an event that decides about the connection is in the queue. Once
the queue is drained the device is connected, or it has left station mode.

The same reports bound the work. What an event brings is less than its span (`Event.span`), which is
four at most, so a drain handles four times as many events as were queued at most. The weights that
bound the drains over any radio are too coarse for this: they do not know that a host's radio gives
up a network that is out of range for good.

## Main results

* `Supervisor.handled_le_spans`: a drain handles as many events as the queue spans at most.
* `Supervisor.Answered.handleEvent`, `Supervisor.Answered.perform`: an event and a call leave nobody
  waiting.
* `Supervisor.settled_of_reaches`: after any calls a drain comes to an end, within these bounds, and
  settles.
-/

namespace Onboarding

/-! ### The events of a drain -/

namespace Event

/-- How many events come to be handled because of an event, itself included. -/
def span : Event → Nat
  | submitted _ => 4
  | link (.stationDisconnected reason) =>
    match Disconnect.classify reason with
    | .transient => 3
    | .credentialRejected => 1
  | link _ => 1

/-- How many events come to be handled because of a queue. -/
def spans : List Event → Nat
  | [] => 0
  | e :: es => e.span + spans es

theorem spans_append (es fs : List Event) : spans (es ++ fs) = spans es + spans fs := by
  induction es with
  | nil => rw [List.nil_append, spans, Nat.zero_add]
  | cons e es ih => rw [List.cons_append, spans, spans, ih, Nat.add_assoc]

theorem span_le_four (e : Event) : e.span ≤ 4 := by
  cases e with
  | submitted c => exact Nat.le_refl 4
  | link e =>
      cases e with
      | stationDisconnected reason =>
          rw [span]
          split <;> decide
      | stationStarted | stationConnected | gotIp | clientJoined | clientLeft | clientGotIp =>
          exact (by decide : 1 ≤ 4)

/-- A queue spans four times its length at most. -/
theorem spans_le (es : List Event) : spans es ≤ 4 * es.length := by
  induction es with
  | nil => exact Nat.le_refl 0
  | cons e es ih =>
      have he := e.span_le_four
      rw [spans, List.length_cons]
      omega

/-- What a queue takes in adds its span at most. -/
theorem spans_push_le (i : Inbox) (es : List Event) :
    spans (i.push es).events ≤ spans i.events + spans es := by
  rw [Inbox.push]
  split
  · exact Nat.le_add_right _ _
  · exact Nat.le_of_eq (spans_append i.events es)

end Event

/-- A network that is joined brings three events at most, none of which brings another. -/
theorem HostRadio.spans_join (c : Credentials) (r : HostRadio) :
    Event.spans ((Radio.join c r).events.map .link) ≤ 3 := by
  cases hvalid : c.isValid with
  | false =>
      rw [events_join_of_invalid hvalid]
      exact Nat.zero_le 3
  | true =>
      cases hlists : r.lists c.ssid with
      | true =>
          rw [join_of_listed hvalid hlists]
          exact Nat.le_refl 3
      | false =>
          rw [join_of_unlisted hvalid hlists]
          simp [Event.spans, Event.span, classify_noNetworkFound]

/-- A network that is joined again brings two. -/
theorem HostRadio.spans_rejoin (r : HostRadio) :
    Event.spans ((Radio.rejoin r).events.map .link) ≤ 2 := by
  by_cases hmode : r.mode = .station
  · rw [rejoin_of_station hmode]
    exact Nat.le_refl 2
  · rw [rejoin_of_not_station hmode]
    exact Nat.zero_le 2

namespace Supervisor

/-- What an event brings spans less than itself. -/
theorem spans_brings_lt (s : Supervisor HostRadio) (e : Event) :
    Event.spans ((s.brings e).map .link) < e.span := by
  cases e with
  | submitted c => exact Nat.lt_succ_of_le (HostRadio.spans_join c s.hub.radio)
  | link e =>
      cases e with
      | stationDisconnected reason =>
          rw [brings, Event.span]
          cases hreason : Disconnect.classify reason with
          | credentialRejected =>
              rw [if_neg (by simp)]
              exact Nat.zero_lt_one
          | transient =>
              split
              · exact Nat.lt_succ_of_le (HostRadio.spans_rejoin s.hub.radio)
              · exact Nat.zero_lt_succ 2
      | stationStarted | stationConnected | gotIp | clientJoined | clientLeft | clientGotIp =>
          exact Nat.zero_lt_one

/-- **A drain handles as many events as the queue spans** at most. -/
theorem handled_le_spans (s : Supervisor HostRadio) :
    s.processEvents.2 ≤ Event.spans s.hub.inbox.events := by
  fun_induction processEvents s with
  | case1 s hnil => exact Nat.zero_le _
  | case2 s e rest hcons t handled heq ih =>
      have hbrought := (s.withEvents rest).spans_brings_lt e
      have hafter := Event.spans_push_le (s.withEvents rest).hub.inbox
        (((s.withEvents rest).brings e).map .link)
      rw [← inbox_handleEvent] at hafter
      have hrest : (s.withEvents rest).hub.inbox.events = rest := rfl
      rw [hrest] at hafter
      rw [heq] at ih
      rw [hcons, Event.spans]
      dsimp only at ih ⊢
      omega

end Supervisor

/-! ### Outcomes that wait -/

/-- Whether an event decides about a connection: an address, or credentials that are refused. -/
def Event.isOutcome : Event → Bool
  | link (.gotIp _) => true
  | link (.stationDisconnected reason) => Disconnect.classify reason = .credentialRejected
  | _ => false

namespace Supervisor

/-- A supervisor whose radio has answered. In station mode the device is connected, or it is in the
queue what becomes of the connection. -/
structure Answered (s : Supervisor HostRadio) : Prop where
  heard : s.hub.inbox.closed = false
  /-- The radio is in station mode as well, so that it can join again. -/
  tuned : s.state.isStation = true → s.hub.radio.mode = .station
  outcome : s.state.isStation = true →
    s.hub.connectivity.isConnected = true ∨ ∃ e ∈ s.hub.inbox.events, e.isOutcome = true

namespace Answered

variable {s t : Supervisor HostRadio}

/-- Outside station mode nobody waits. -/
theorem of_free (heard : s.hub.inbox.closed = false) (h : s.state.isStation = false) :
    s.Answered where
  heard := heard
  tuned := by simp [h]
  outcome := by simp [h]

/-- More events may be queued. -/
theorem congr (hs : s.Answered) (hradio : t.hub.radio = s.hub.radio)
    (hstate : t.state.isStation = s.state.isStation)
    (hconnectivity : t.hub.connectivity = s.hub.connectivity)
    (hinbox : ∃ es, t.hub.inbox = s.hub.inbox.push es) : t.Answered := by
  obtain ⟨es, hinbox⟩ := hinbox
  refine ⟨?_, ?_, ?_⟩
  · rw [hinbox, Inbox.closed_push]
    exact hs.heard
  · rw [hstate, hradio]
    exact hs.tuned
  · rw [hstate, hconnectivity, hinbox, Inbox.events_push_of_open hs.heard]
    intro hstation
    rcases hs.outcome hstation with hconnected | ⟨e, he, houtcome⟩
    · exact .inl hconnected
    · exact .inr ⟨e, List.mem_append_left es he, houtcome⟩

/-- An event that decides nothing can be taken from the queue. -/
theorem withEvents (hs : s.Answered) {e : Event} {rest : List Event}
    (hcons : s.hub.inbox.events = e :: rest) (he : e.isOutcome = false) :
    (s.withEvents rest).Answered where
  heard := hs.heard
  tuned := hs.tuned
  outcome := by
    intro hstation
    rcases hs.outcome hstation with hconnected | ⟨x, hx, houtcome⟩
    · exact .inl hconnected
    · rw [hcons] at hx
      rcases List.mem_cons.mp hx with rfl | hx
      · simp [he] at houtcome
      · exact .inr ⟨x, hx, houtcome⟩

/-! ### Operations -/

/-- Joining a network queues its outcome, or is refused. -/
theorem connectStation (heard : s.hub.inbox.closed = false) (c : Credentials) :
    (s.connectStation c).1.Answered := by
  have hclosed := (s.keeps_connectStation c).closed_eq.trans heard
  have hresult := HostRadio.result_join c s.stopProvisioning.hub.radio
  cases hvalid : c.isValid with
  | false =>
      rw [hvalid, if_neg Bool.false_ne_true] at hresult
      refine of_free hclosed ?_
      rw [(connectStation_of_error hresult).2.1]
      rfl
  | true =>
      have hradio := radio_connectStation c s
      have hinbox := congrArg Inbox.events (inbox_connectStation c s)
      rw [Inbox.events_push_of_open heard] at hinbox
      cases hlists : s.hub.radio.lists c.ssid with
      | true =>
          rw [HostRadio.join_of_listed hvalid hlists] at hradio hinbox
          refine ⟨hclosed, fun _ => by rw [hradio], fun _ => .inr ?_⟩
          exact ⟨.link (.gotIp s.hub.radio.address), by simp [hinbox], rfl⟩
      | false =>
          rw [HostRadio.join_of_unlisted hvalid hlists] at hradio hinbox
          refine ⟨hclosed, fun _ => by rw [hradio], fun _ => .inr ?_⟩
          refine ⟨.link (.stationDisconnected HostRadio.noNetworkFound), by simp [hinbox], ?_⟩
          simp [Event.isOutcome, HostRadio.classify_noNetworkFound]

/-- The host's radio always opens the access point, which ends a connection. -/
theorem startProvisioning (hs : s.Answered) : s.startProvisioning.1.Answered := by
  cases hlisten : s.isListening with
  | true =>
      rw [Supervisor.startProvisioning, if_pos hlisten]
      exact hs
  | false =>
      refine of_free (s.keeps_startProvisioning.closed_eq.trans hs.heard) ?_
      rw [startProvisioning_of_ok hlisten rfl]
      exact isStation_openSession _

/-- A restart ends a connection. -/
theorem clearAndRestart (heard : s.hub.inbox.closed = false) : s.clearAndRestart.Answered :=
  of_free (s.keeps_clearAndRestart.closed_eq.trans heard) s.isStation_clearAndRestart

/-- A link that was lost in station mode is joined again, with a new address in the queue. -/
theorem linkLost (heard : s.hub.inbox.closed = false) (tuned : s.hub.radio.mode = .station)
    (reason : UInt16) : (s.linkLost reason).Answered := by
  rw [Supervisor.linkLost]
  split
  · exact clearAndRestart heard
  · let lost := { s with state := .stationDisconnected }.withConnectivity .provisioning
    have hrejoin := HostRadio.rejoin_of_station tuned
    have hradio : (lost.call Radio.rejoin).1.hub.radio = s.hub.radio :=
      congrArg RadioAnswer.radio hrejoin
    have hinbox : (lost.call Radio.rejoin).1.hub.inbox =
        s.hub.inbox.push [.link .stationConnected, .link (.gotIp s.hub.radio.address)] :=
      congrArg (fun a : RadioAnswer HostRadio => s.hub.inbox.push (a.events.map .link)) hrejoin
    refine ⟨?_, fun _ => ?_, fun _ => .inr ?_⟩
    · rw [hinbox, Inbox.closed_push]
      exact heard
    · rw [hradio]
      exact tuned
    · rw [hinbox, Inbox.events_push_of_open heard]
      exact ⟨.link (.gotIp s.hub.radio.address), by simp, rfl⟩

/-- **An event leaves nobody waiting**: it decides about the connection, or what decides about it is
still in the queue. -/
theorem handleEvent (hs : s.Answered) {e : Event} {rest : List Event}
    (hcons : s.hub.inbox.events = e :: rest) :
    ((s.withEvents rest).handleEvent e).Answered := by
  cases e with
  | submitted c => exact connectStation (s := s.withEvents rest) hs.heard c
  | link e =>
      rw [Supervisor.handleEvent]
      cases hstation : s.state.isStation with
      | false =>
          rw [handleLink_of_not_isStation (s := s.withEvents rest) hstation]
          exact of_free hs.heard hstation
      | true =>
          have hrest : (s.withEvents rest).state.isStation = true := hstation
          cases e with
          | stationStarted | clientJoined | clientLeft | clientGotIp =>
              exact hs.withEvents hcons rfl
          | stationConnected =>
              rw [handleLink, if_pos hrest]
              exact (hs.withEvents hcons rfl).congr rfl hstation.symm rfl
                ⟨[], (Inbox.push_nil _).symm⟩
          | gotIp ip =>
              rw [handleLink, if_pos hrest]
              exact ⟨hs.heard, fun _ => hs.tuned hstation, fun _ => .inl rfl⟩
          | stationDisconnected reason =>
              rw [handleLink, if_pos hrest]
              exact linkLost (s := s.withEvents rest) hs.heard (hs.tuned hstation) reason

/-- A drain leaves nobody waiting. -/
theorem drain (hs : s.Answered) : s.drain.Answered :=
  drain_induct (fun _ _ _ hcons ht => ht.handleEvent hcons) hs

/-- A drained supervisor in station mode is connected, with an address. -/
theorem settled (hs : s.Answered) (hagrees : s.Agrees) (hempty : s.hub.inbox.events = []) :
    s.state = .idle ∨ s.state = .apActive ∨
      s.state = .stationConnected ∧ ∃ ip, s.hub.connectivity = .connected ip := by
  have hconnected : s.state.isStation = true →
      s.state = .stationConnected ∧ ∃ ip, s.hub.connectivity = .connected ip := by
    intro hstation
    rcases hs.outcome hstation with hconnected | ⟨e, he, -⟩
    · have hmode : s.hub.connectivity.mode = .connected := by
        simpa [Connectivity.isConnected] using hconnected
      obtain ⟨ip, hip⟩ := Option.isSome_iff_exists.mp (hagrees.ip_iff.mpr hmode)
      refine ⟨hagrees.connected hmode, ip, ?_⟩
      rw [Connectivity.connected, ← hmode, ← hip]
    · simp [hempty] at he
  cases hstate : s.state with
  | idle => exact .inl rfl
  | apActive => exact .inr (.inl rfl)
  | stationConnecting | stationConnected | stationDisconnected =>
      rw [hstate] at hconnected
      exact .inr (.inr (hconnected rfl))

end Answered

end Supervisor

/-! ### Calls in any order -/

/-- Whether a call leaves the radio to the supervisor. -/
def SupervisorCall.leavesRadio {ρ : Type} : SupervisorCall ρ → Bool
  | startProvisioning | stopProvisioning | connectStation _ | ensureStation _ | clearAndRestart
  | processEvents | queue _ | request _ | scanned _ => true
  | meanwhile .. => false

namespace Supervisor

/-- A supervisor that another comes to be by calls, in any order. Between them the host changes
what it likes but the radio. -/
inductive Reaches {ρ : Type} [Radio ρ] (s : Supervisor ρ) : Supervisor ρ → Prop where
  | start : s.Reaches s
  | call {t : Supervisor ρ} (c : SupervisorCall ρ) (hc : c.leavesRadio = true) :
      s.Reaches t → s.Reaches (t.perform c)
  | meanwhile {t : Supervisor ρ} (store : Store) (cache : ScanCache) (port : Faults) :
      s.Reaches t → s.Reaches (t.perform (.meanwhile t.hub.radio store cache port))

/-- **A call leaves nobody waiting.** -/
theorem Answered.perform {s : Supervisor HostRadio} (hs : s.Answered)
    {c : SupervisorCall HostRadio} (hc : c.leavesRadio = true) : (s.perform c).Answered := by
  cases c with
  | startProvisioning => exact hs.startProvisioning
  | stopProvisioning =>
      refine hs.congr s.radio_stopProvisioning (congrArg _ s.state_stopProvisioning) ?_
        ⟨[], s.inbox_stopProvisioning.trans (Inbox.push_nil _).symm⟩
      rw [Supervisor.perform, stopProvisioning]
      split <;> rfl
  | connectStation c => exact connectStation hs.heard c
  | ensureStation c =>
      rw [Supervisor.perform, ensureStation]
      split
      · exact hs
      · exact connectStation hs.heard c
  | clearAndRestart => exact clearAndRestart hs.heard
  | processEvents => exact hs.drain
  | queue events => exact hs.congr rfl rfl rfl ⟨events, rfl⟩
  | request r =>
      have hfront := s.sameFront_handle r
      have hradio : (s.handle r).1.hub.radio = s.hub.radio := by
        -- a host's radio does not remember its scans
        rcases s.scansAtMost_handle r with hsame | hscanned
        · exact hsame
        · exact hscanned
      refine hs.congr hradio (congrArg _ hfront.state_eq) hfront.connectivity_eq ?_
      rcases s.inbox_handle r with hsame | ⟨c, hqueued⟩
      · exact ⟨[], hsame.trans (Inbox.push_nil _).symm⟩
      · exact ⟨_, hqueued⟩
  | scanned reply =>
      obtain ⟨radio, cache, scanning, hscan⟩ := s.finishScan_scansOnly reply
      refine hs.congr (s.radio_finishScan reply) ?_ ?_ ⟨[], ?_⟩
      · rw [Supervisor.perform, hscan]
      · rw [Supervisor.perform, hscan]
      · rw [Supervisor.perform, hscan, Inbox.push_nil]
  | meanwhile => simp [SupervisorCall.leavesRadio] at hc

/-- Whoever is reached from a supervisor in order is in order. -/
theorem Answered.reaches {s t : Supervisor HostRadio} (hs : s.Answered) (hagrees : s.Agrees)
    (h : s.Reaches t) : t.Answered ∧ t.Agrees := by
  induction h with
  | start => exact ⟨hs, hagrees⟩
  | call c hc _ ih => exact ⟨ih.1.perform hc, ih.2.perform c⟩
  | @meanwhile t store cache port _ ih =>
      exact ⟨ih.1.congr rfl rfl rfl ⟨[], (Inbox.push_nil _).symm⟩,
        ih.2.perform (.meanwhile t.hub.radio store cache port)⟩

/-- **Draining over a host's radio comes to an end and settles**, whatever was called before and
whatever waits. All events that wait are handled, and four times as many at most; then the
supervisor is idle, its access point is up, or it is connected with an address. -/
theorem settled_of_reaches (settings : Settings) (networks : List Network) (address : Ipv4)
    (store : Store) (port : Faults) {s : Supervisor HostRadio}
    (h : Reaches { Boot.supervisor settings ({ networks, address } : HostRadio) store with port }
      s) :
    let n := s.hub.inbox.events.length
    let t := s.processEvents.1
    let handled := s.processEvents.2
    (s.after handled = t ∧ ∀ k < handled, (s.after k).hub.inbox.events ≠ []) ∧
      t.hub.inbox.events = [] ∧ n ≤ handled ∧ handled ≤ 4 * n ∧
      (t.state = .idle ∨ t.state = .apActive ∨
        t.state = .stationConnected ∧ ∃ ip, t.hub.connectivity = .connected ip) := by
  intro n t handled
  obtain ⟨hanswered, hagrees⟩ :=
    Answered.reaches (.of_free rfl rfl) (.of_disconnected rfl rfl rfl rfl) h
  refine ⟨⟨s.after_handled, fun k hk => s.events_after_ne_nil hk⟩, s.inbox_processEvents,
    s.length_le_handled, Nat.le_trans s.handled_le_spans (Event.spans_le _), ?_⟩
  exact hanswered.drain.settled hagrees.drain s.inbox_processEvents

/-- A submission of a listed network is handled with its three reports, four events in all. -/
theorem settled_of_reaches_of_submission :
    let radio : HostRadio := { networks := [⟨"Home", -40, 6, false⟩] }
    let booted : Supervisor HostRadio :=
      { Boot.supervisor {} radio (.memory {}) with port := .never }
    let s := booted.perform (.queue [.submitted ⟨"Home", ""⟩])
    booted.Reaches s ∧ s.processEvents.2 = 4 ∧
      s.processEvents.1.state = .stationConnected ∧
      s.processEvents.1.hub.inbox.events = [] ∧ s.processEvents.2 ≤ 4 * 1 := by
  intro radio booted s
  have hreach : booted.Reaches s := .call _ rfl .start
  obtain ⟨-, hempty, -, hle, -⟩ :=
    settled_of_reaches {} radio.networks radio.address (.memory {}) .never hreach
  exact ⟨hreach, by decide +kernel, by decide +kernel, hempty, hle⟩

end Supervisor

end Onboarding
