import Onboarding.Proofs.Supervisor.Calls
import Onboarding.Proofs.Supervisor.Queue

/-!
# What a queue of link events comes to

Link events that do not blame the credentials do little to a station. An event says at most what
state the station is in now and what is known of its network, and a lost link is joined again. If
the radio has nothing to report when it joins again, the queue grows no further, and all events
together come to one change (`Supervisor.heed`): of what they say the last word counts, and each
lost link is one call of the radio.

## Main results

* `Supervisor.handleLink_eq_heed`: one event is such a change.
* `Supervisor.heed_cons`: changes one after the other are one change.
* `Supervisor.processEvents_of_isStation`, `Supervisor.processEvents_of_not_isStation`: so is a
  drain; outside station mode it changes nothing.
* `Supervisor.last_word_counts`: what is left of a queue, and what the radio is asked for.
-/

namespace Onboarding

namespace LinkEvent

/-- The state that an event puts a station into. -/
def state? : LinkEvent → Option NetworkState
  | stationConnected | gotIp _ => some .stationConnected
  | stationDisconnected _ => some .stationDisconnected
  | stationStarted | clientJoined _ | clientLeft _ | clientGotIp _ => none

/-- The connectivity that an event tells of a station. -/
def connectivity? : LinkEvent → Option Connectivity
  | gotIp ip => some (.connected ip)
  | stationDisconnected _ => some .provisioning
  | stationStarted | stationConnected | clientJoined _ | clientLeft _ | clientGotIp _ => none

/-- Whether a station lost its link. -/
def isLoss : LinkEvent → Bool
  | stationDisconnected _ => true
  | _ => false

/-- Whether an event blames the credentials. -/
def isRejection : LinkEvent → Bool
  | stationDisconnected reason => Disconnect.classify reason = .credentialRejected
  | _ => false

end LinkEvent

/-- A radio that reports nothing when it joins a network again. -/
def Radio.RejoinsSilently (ρ : Type) [Radio ρ] : Prop :=
  ∀ r : ρ, (Radio.rejoin r).events = []

/-- A radio that was told a number of times to join its network again. -/
def Radio.rejoined {ρ : Type} [Radio ρ] (r : ρ) : Nat → ρ
  | 0 => r
  | n + 1 => rejoined (Radio.rejoin r).radio n

/-- The log tells of each time. -/
theorem LoggedRadio.log_rejoined {ρ : Type} [Radio ρ] (r : LoggedRadio ρ) (n : Nat) :
    ∃ accepted : List Bool, accepted.length = n ∧
      (Radio.rejoined r n).log = r.log ++ accepted.map fun a => .call (.rejoin a) := by
  induction n generalizing r with
  | zero => exact ⟨[], rfl, (List.append_nil _).symm⟩
  | succ n ih =>
      obtain ⟨accepted, hlength, hlog⟩ := ih (Radio.rejoin r).radio
      have hfirst : (Radio.rejoin r).radio.log =
          r.log ++ [.call (.rejoin (Radio.rejoin r.radio).result.isOk)] := rfl
      refine ⟨(Radio.rejoin r.radio).result.isOk :: accepted, congrArg Nat.succ hlength, ?_⟩
      rw [Radio.rejoined, hlog, hfirst, List.append_assoc]
      rfl

namespace Supervisor

variable {ρ : Type} [Radio ρ]

/-- A station that heeds events: it takes over the last state and the last connectivity that they
say, and its radio joins again for each lost link. -/
def heed (s : Supervisor ρ) (es : List LinkEvent) : Supervisor ρ :=
  { s with
    state := (es.filterMap LinkEvent.state?).getLastD s.state
    hub := { s.hub with
      radio := Radio.rejoined s.hub.radio (es.countP LinkEvent.isLoss)
      connectivity := (es.filterMap LinkEvent.connectivity?).getLastD s.hub.connectivity } }

/-- To heed events one after the other is to heed them all. -/
theorem heed_cons (s : Supervisor ρ) (e : LinkEvent) (es : List LinkEvent) :
    s.heed (e :: es) = (s.heed [e]).heed es := by
  cases e <;> simp only [heed, LinkEvent.state?, LinkEvent.connectivity?, LinkEvent.isLoss,
    List.filterMap_cons, List.filterMap_nil, List.getLastD_cons, List.getLastD_nil,
    List.countP_cons, List.countP_nil, Bool.false_eq_true, if_true, if_false, Nat.add_zero,
    Nat.zero_add, Radio.rejoined]

/-- A station that heeds an event is still a station. -/
theorem isStation_heed {s : Supervisor ρ} (h : s.state.isStation = true) (e : LinkEvent) :
    (s.heed [e]).state.isStation = true := by
  cases e with
  | stationStarted | clientJoined | clientLeft | clientGotIp => exact h
  | stationConnected | gotIp | stationDisconnected => rfl

/-- **A station heeds an event** that does not blame the credentials. -/
theorem handleLink_eq_heed (hsilent : Radio.RejoinsSilently ρ) {s : Supervisor ρ}
    (hstation : s.state.isStation = true) {e : LinkEvent} (he : e.isRejection = false) :
    s.handleLink e = s.heed [e] := by
  cases e with
  | stationStarted | clientJoined | clientLeft | clientGotIp => rfl
  | stationConnected | gotIp =>
      rw [handleLink, if_pos hstation]
      rfl
  | stationDisconnected reason =>
      have hreason : Disconnect.classify reason = .transient := by
        cases hclass : Disconnect.classify reason with
        | transient => rfl
        | credentialRejected => simp [LinkEvent.isRejection, hclass] at he
      have hnone : (Radio.rejoin s.hub.radio).events = [] := hsilent s.hub.radio
      rw [handleLink, if_pos hstation, linkLost, hreason]
      simp only [call, Hub.answered, withConnectivity, hnone, List.map_nil, Inbox.push_nil]
      rfl

/-- **A drained station has heeded its queue**, event by event. -/
theorem processEvents_of_isStation (hsilent : Radio.RejoinsSilently ρ) {s : Supervisor ρ}
    (hstation : s.state.isStation = true) {es : List LinkEvent}
    (hqueue : s.hub.inbox.events = es.map .link) (hkept : ∀ e ∈ es, e.isRejection = false) :
    s.processEvents = ((s.withEvents []).heed es, es.length) := by
  induction es generalizing s with
  | nil =>
      have hempty : s.withEvents [] = s := by rw [withEvents, ← List.map_nil, ← hqueue]
      rw [processEvents_of_nil hqueue, hempty]
      rfl
  | cons e es ih =>
      have hfirst := handleLink_eq_heed hsilent (s := s.withEvents (es.map .link)) hstation
        (hkept e List.mem_cons_self)
      have hrest := ih (s := (s.withEvents (es.map .link)).heed [e]) (isStation_heed hstation e)
        rfl fun x hx => hkept x (List.mem_cons_of_mem e hx)
      rw [processEvents_of_cons hqueue, handleEvent, hfirst, hrest, heed_cons _ e es]
      rfl

/-- **Outside station mode a drain changes nothing** but the queue. -/
theorem processEvents_of_not_isStation {s : Supervisor ρ} (hstation : s.state.isStation = false)
    {es : List LinkEvent} (hqueue : s.hub.inbox.events = es.map .link) :
    s.processEvents = (s.withEvents [], es.length) := by
  induction es generalizing s with
  | nil =>
      have hempty : s.withEvents [] = s := by rw [withEvents, ← List.map_nil, ← hqueue]
      rw [processEvents_of_nil hqueue, hempty]
      rfl
  | cons e es ih =>
      have hfirst : (s.withEvents (es.map .link)).handleLink e = s.withEvents (es.map .link) :=
        handleLink_of_not_isStation (s := s.withEvents (es.map .link)) hstation e
      have hrest := ih (s := s.withEvents (es.map .link)) hstation rfl
      rw [processEvents_of_cons hqueue, handleEvent, hfirst, hrest]
      rfl

/-- **Of a queue of link events the last word counts**, unless one of them blames the credentials.
All of them are handled, and no record, session or snapshot is touched. Outside station mode nothing
changes at all. A station joins again once for each lost link, which is all that its radio is asked
for, and then it is in the last state that an event put it into. It is connected with the last
address if no link was lost after that, is being provisioned if one was, and if there was neither
its connectivity is what it was. -/
theorem last_word_counts (hsilent : Radio.RejoinsSilently ρ)
    {s : Supervisor (LoggedRadio ρ)} {es : List LinkEvent}
    (hqueue : s.hub.inbox.events = es.map .link) (hkept : ∀ e ∈ es, e.isRejection = false) :
    let t := s.processEvents.1
    s.processEvents.2 = es.length ∧
    (t.hub.store = s.hub.store ∧ t.session = s.session ∧ t.hub.cache = s.hub.cache) ∧
    (s.state.isStation = false → t = s.withEvents []) ∧
    (s.state.isStation = true →
      (∃ accepted : List Bool, accepted.length = es.countP LinkEvent.isLoss ∧
        t.calls = s.calls ++ accepted.map fun a => .call (.rejoin a)) ∧
      t.state = (es.filterMap LinkEvent.state?).getLastD s.state ∧
      t.hub.connectivity =
        (es.filterMap LinkEvent.connectivity?).getLastD s.hub.connectivity) := by
  intro t
  cases hstation : s.state.isStation with
  | false =>
      have hdrain := processEvents_of_not_isStation hstation hqueue
      have ht : t = s.withEvents [] := congrArg Prod.fst hdrain
      refine ⟨congrArg Prod.snd hdrain, ?_, fun _ => ht, by simp⟩
      rw [ht]
      exact ⟨rfl, rfl, rfl⟩
  | true =>
      have hlogged : Radio.RejoinsSilently (LoggedRadio ρ) := fun r => hsilent r.radio
      have hdrain := processEvents_of_isStation hlogged hstation hqueue hkept
      have ht : t = (s.withEvents []).heed es := congrArg Prod.fst hdrain
      refine ⟨congrArg Prod.snd hdrain, ?_, by simp, fun _ => ?_⟩
      · rw [ht]
        exact ⟨rfl, rfl, rfl⟩
      · rw [ht]
        exact ⟨s.hub.radio.log_rejoined _, rfl, rfl⟩

/-- A station gets an address and loses its link twice, the second time after it has been reached
again. It joins again twice and is being provisioned. -/
theorem last_word_counts_of_two_losses :
    let es : List LinkEvent := [.gotIp ⟨10, 0, 0, 2⟩, .stationDisconnected 8, .stationConnected,
      .stationDisconnected 4, .clientGotIp ⟨10, 0, 0, 3⟩]
    let s : Supervisor (LoggedRadio ScriptedRadio) :=
      { hub := { radio := { radio := { networks := [] } }, store := .memory {}, inbox :=
          { events := es.map .link } }
        state := .stationConnecting }
    s.processEvents.2 = 5 ∧ s.processEvents.1.state = .stationDisconnected ∧
      s.processEvents.1.hub.connectivity = .provisioning ∧
      ∃ accepted : List Bool, accepted.length = 2 ∧
        s.processEvents.1.calls = accepted.map fun a => .call (.rejoin a) := by
  intro es s
  have hkept : ∀ e ∈ es, e.isRejection = false := by decide
  obtain ⟨hhandled, -, -, hstation⟩ := last_word_counts (fun _ => rfl) (s := s) rfl hkept
  obtain ⟨hcalls, hstate, hconnectivity⟩ := hstation rfl
  exact ⟨hhandled, hstate, hconnectivity, hcalls⟩

end Supervisor

end Onboarding
