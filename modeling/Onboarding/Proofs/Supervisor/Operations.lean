import Onboarding.Supervisor

/-!
# What the operations of a supervisor leave alone

Most of what a supervisor does concerns the radio. The store is touched by one operation only, which
clears the record; credentials are queued by nobody but the portal; and whether the queue is read at
all never changes. `Supervisor.Keeps` is this frame, and each operation keeps it up to the record
that `Supervisor.clearAndRestart` clears.

Draining handles one event after the other, so what every event preserves holds after a drain
(`Supervisor.drain_induct`).

## Main results

* `Supervisor.drain_induct`: induction along a drain.
* `Supervisor.keeps_startProvisioning`, `Supervisor.keeps_connectStation`,
  `Supervisor.keeps_clearAndRestart`: the frame of each operation.
* `Supervisor.keeps_handleEvent`: the frame of an event.
-/

namespace Onboarding

/-- The credentials that an event hands over. -/
def Event.credentials? : Event → Option Credentials
  | submitted c => some c
  | link _ => none

namespace Inbox

/-- The credentials that wait in a queue, oldest first. -/
def submissions (i : Inbox) : List Credentials :=
  i.events.filterMap Event.credentials?

/-- Putting events into a queue does not change whether it is read. -/
@[simp] theorem closed_push (i : Inbox) (es : List Event) : (i.push es).closed = i.closed := by
  rw [push]
  split <;> rfl

/-- Link events hand nothing over. -/
theorem submissions_push_of_links {es : List Event} (h : es.filterMap Event.credentials? = [])
    (i : Inbox) : (i.push es).submissions = i.submissions := by
  rw [push]
  split
  · rfl
  · simp only [submissions, List.filterMap_append, h, List.append_nil]

/-- What a radio reports hands nothing over. -/
theorem filterMap_link (es : List LinkEvent) :
    (es.map Event.link).filterMap Event.credentials? = [] := by
  rw [List.filterMap_map, List.filterMap_eq_nil_iff]
  intro e he
  rfl

end Inbox

namespace Supervisor

variable {ρ : Type}

/-- The credentials that wait to be handled. -/
def submissions (s : Supervisor ρ) : List Credentials :=
  s.hub.inbox.submissions

/-- One supervisor state has the store, the waiting credentials and the reader of the other, and a
port that can always be had stays so. -/
structure Keeps (s t : Supervisor ρ) : Prop where
  store_eq : t.hub.store = s.hub.store
  submissions_eq : t.submissions = s.submissions
  closed_eq : t.hub.inbox.closed = s.hub.inbox.closed
  port_eq : s.port = .never → t.port = .never

namespace Keeps

theorem rfl (s : Supervisor ρ) : s.Keeps s :=
  ⟨Eq.refl _, Eq.refl _, Eq.refl _, id⟩

theorem trans {s t u : Supervisor ρ} (h : s.Keeps t) (h' : t.Keeps u) : s.Keeps u where
  store_eq := h'.store_eq.trans h.store_eq
  submissions_eq := h'.submissions_eq.trans h.submissions_eq
  closed_eq := h'.closed_eq.trans h.closed_eq
  port_eq := h'.port_eq ∘ h.port_eq

end Keeps

/-! ### The frame of each operation -/

/-- Events that hand nothing over can be queued. -/
theorem keeps_push {es : List Event} (h : es.filterMap Event.credentials? = [])
    (s : Supervisor ρ) : s.Keeps (s.push es) where
  store_eq := rfl
  submissions_eq := Inbox.submissions_push_of_links h s.hub.inbox
  closed_eq := s.hub.inbox.closed_push es
  port_eq := id

theorem keeps_call (s : Supervisor ρ) (f : ρ → RadioAnswer ρ) : s.Keeps (s.call f).1 where
  store_eq := rfl
  submissions_eq := Inbox.submissions_push_of_links (Inbox.filterMap_link _) s.hub.inbox
  closed_eq := s.hub.inbox.closed_push _
  port_eq := id

theorem keeps_toIdle (s : Supervisor ρ) : s.Keeps s.toIdle :=
  ⟨rfl, rfl, rfl, id⟩

theorem keeps_stopProvisioning (s : Supervisor ρ) : s.Keeps s.stopProvisioning := by
  rw [stopProvisioning]
  split <;> exact ⟨rfl, rfl, rfl, id⟩

/-- After the portal is closed there is no session. -/
@[simp] theorem session_stopProvisioning (s : Supervisor ρ) :
    s.stopProvisioning.session = none := by
  rw [stopProvisioning]
  split
  · rfl
  · assumption

@[simp] theorem state_stopProvisioning (s : Supervisor ρ) : s.stopProvisioning.state = s.state := by
  rw [stopProvisioning]
  split <;> rfl

@[simp] theorem radio_stopProvisioning (s : Supervisor ρ) :
    s.stopProvisioning.hub.radio = s.hub.radio := by
  rw [stopProvisioning]
  split <;> rfl

@[simp] theorem inbox_stopProvisioning (s : Supervisor ρ) :
    s.stopProvisioning.hub.inbox = s.hub.inbox := by
  rw [stopProvisioning]
  split <;> rfl

@[simp] theorem connectivity_stopProvisioning (s : Supervisor ρ) :
    s.stopProvisioning.hub.connectivity = s.hub.connectivity := by
  rw [stopProvisioning]
  split <;> rfl

@[simp] theorem port_stopProvisioning (s : Supervisor ρ) : s.stopProvisioning.port = s.port := by
  rw [stopProvisioning]
  split <;> rfl

@[simp] theorem accessPoint_stopProvisioning (s : Supervisor ρ) :
    s.stopProvisioning.accessPoint = s.accessPoint := by
  rw [stopProvisioning]
  split <;> rfl

variable [Radio ρ]

theorem keeps_openSession (s : Supervisor ρ) : s.Keeps s.openSession.1 := by
  have hport : s.Keeps { s with port := s.port.next.2 } := by
    refine ⟨rfl, rfl, rfl, ?_⟩
    intro h
    rw [h, Faults.next_never]
  rw [openSession]
  dsimp only
  split
  · refine hport.trans ((keeps_call _ Radio.stop).trans ?_)
    exact ⟨rfl, rfl, rfl, id⟩
  · exact hport.trans ⟨rfl, rfl, rfl, id⟩

/-- Opening the portal keeps what is stored and what waits. -/
theorem keeps_startProvisioning (s : Supervisor ρ) : s.Keeps s.startProvisioning.1 := by
  rw [startProvisioning]
  split
  · exact .rfl s
  · have hcall := s.keeps_stopProvisioning.trans
      (s.stopProvisioning.keeps_call (Radio.startAccessPoint s.stopProvisioning.accessPoint))
    dsimp only
    split
    · rename_i t e heq
      rwa [heq] at hcall
    · rename_i t heq
      rw [heq] at hcall
      refine hcall.trans (Keeps.trans ?_ (keeps_openSession _))
      exact ⟨rfl, rfl, rfl, id⟩

/-- Joining a network keeps what is stored and what waits. -/
theorem keeps_connectStation (c : Credentials) (s : Supervisor ρ) :
    s.Keeps (s.connectStation c).1 := by
  have hcall := s.keeps_stopProvisioning.trans (s.stopProvisioning.keeps_call (Radio.join c))
  rw [connectStation]
  split
  · rename_i t heq
    rw [heq] at hcall
    exact hcall.trans ⟨rfl, rfl, rfl, id⟩
  · rename_i t e heq
    rw [heq] at hcall
    exact hcall.trans t.keeps_toIdle

theorem keeps_ensureStation (c : Credentials) (s : Supervisor ρ) :
    s.Keeps (s.ensureStation c).1 := by
  rw [ensureStation]
  split
  · exact .rfl s
  · exact s.keeps_connectStation c

/-- The supervisor with its record cleared. -/
def cleared (s : Supervisor ρ) : Supervisor ρ :=
  { s with hub := { s.hub with store := s.hub.store.clearRecord.1 } }

/-- Clearing and restarting keeps everything but the record. -/
theorem keeps_clearAndRestart (s : Supervisor ρ) : s.cleared.Keeps s.clearAndRestart := by
  rw [clearAndRestart]
  exact s.cleared.keeps_stopProvisioning.trans
    ((keeps_call _ Radio.stop).trans ((keeps_toIdle _).trans (keeps_startProvisioning _)))

/-- Clearing and restarting clears the record and touches nothing else in the store. -/
theorem store_clearAndRestart (s : Supervisor ρ) :
    s.clearAndRestart.hub.store = s.hub.store.clearRecord.1 :=
  s.keeps_clearAndRestart.store_eq

/-! ### Outcomes of opening the portal -/

/-- Where the port can be had, the portal accepts requests. -/
theorem openSession_of_free {s : Supervisor ρ} (h : s.port.next.1 = false) :
    s.openSession.1.state = .apActive ∧ s.openSession.1.session = some { active := true } := by
  simp only [openSession, h, Bool.false_eq_true, if_false]
  exact ⟨rfl, rfl⟩

/-- Where the port cannot be had, the radio is switched off again. -/
theorem openSession_of_taken {s : Supervisor ρ} (h : s.port.next.1 = true) :
    s.openSession.1.state = .idle ∧ s.openSession.1.hub.connectivity = .disconnected := by
  simp only [openSession, h, if_true]
  exact ⟨rfl, rfl⟩

/-- Opening a session begins no station connection. -/
theorem isStation_openSession (s : Supervisor ρ) : s.openSession.1.state.isStation = false := by
  cases h : s.port.next.1 with
  | false => rw [(openSession_of_free h).1]; rfl
  | true => rw [(openSession_of_taken h).1]; rfl

/-- The supervisor when its access point was asked for. -/
def announced (s : Supervisor ρ) : Supervisor ρ :=
  (s.stopProvisioning.call (Radio.startAccessPoint s.accessPoint)).1

/-- Nothing but the radio was asked. -/
@[simp] theorem port_announced (s : Supervisor ρ) : s.announced.port = s.port :=
  s.port_stopProvisioning

@[simp] theorem radio_announced (s : Supervisor ρ) :
    s.announced.hub.radio = (Radio.startAccessPoint s.accessPoint s.hub.radio).radio := by
  rw [announced, ← radio_stopProvisioning s]
  rfl

/-- A portal that accepts requests is left as it is. -/
theorem startProvisioning_of_listening {s : Supervisor ρ} (h : s.isListening = true) :
    s.startProvisioning = (s, .ok ()) := by
  rw [startProvisioning, if_pos h]

/-- Where the radio opens the access point, the networks are scanned and a session begins. -/
theorem startProvisioning_of_ok {s : Supervisor ρ} (hlisten : s.isListening = false)
    (h : (Radio.startAccessPoint s.accessPoint s.hub.radio).result = .ok ()) :
    s.startProvisioning =
      openSession { s.announced with hub := s.announced.hub.refreshCache.1 } := by
  have hcall : s.stopProvisioning.call (Radio.startAccessPoint s.accessPoint) =
      (s.announced, .ok ()) := by
    refine Prod.ext rfl ?_
    rw [← h, ← radio_stopProvisioning s]
    rfl
  rw [startProvisioning, if_neg (by simp [hlisten])]
  simp only [accessPoint_stopProvisioning, hcall]

/-- Where the radio does not, nothing else is done. -/
theorem startProvisioning_of_error {s : Supervisor ρ} (hlisten : s.isListening = false)
    {e : RadioError} (h : (Radio.startAccessPoint s.accessPoint s.hub.radio).result = .error e) :
    s.startProvisioning = (s.announced, .error (.radio e)) := by
  have hcall : s.stopProvisioning.call (Radio.startAccessPoint s.accessPoint) =
      (s.announced, .error e) := by
    refine Prod.ext rfl ?_
    rw [← h, ← radio_stopProvisioning s]
    rfl
  rw [startProvisioning, if_neg (by simp [hlisten])]
  simp only [accessPoint_stopProvisioning, hcall]

/-- Opening the portal begins no station connection. -/
theorem isStation_startProvisioning {s : Supervisor ρ} (h : s.state.isStation = false) :
    s.startProvisioning.1.state.isStation = false := by
  cases hlisten : s.isListening with
  | true =>
      rw [startProvisioning, if_pos hlisten]
      exact h
  | false =>
      cases hresult : (Radio.startAccessPoint s.accessPoint s.hub.radio).result with
      | ok _ =>
          rw [startProvisioning_of_ok hlisten hresult]
          exact isStation_openSession _
      | error e =>
          rw [startProvisioning_of_error hlisten hresult]
          exact s.state_stopProvisioning ▸ h

/-- Clearing and restarting ends a station connection. -/
theorem isStation_clearAndRestart (s : Supervisor ρ) :
    s.clearAndRestart.state.isStation = false :=
  isStation_startProvisioning rfl

/-! ### Outcomes of joining a network -/

/-- A join that the radio accepts is an attempt, and ends the session. -/
theorem connectStation_of_ok {c : Credentials} {s : Supervisor ρ}
    (h : (Radio.join c s.stopProvisioning.hub.radio).result = .ok ()) :
    (s.connectStation c).2 = .ok () ∧ (s.connectStation c).1.state = .stationConnecting ∧
      (s.connectStation c).1.session = none := by
  have hcall : s.stopProvisioning.call (Radio.join c) =
      ((s.stopProvisioning.call (Radio.join c)).1, .ok ()) := Prod.ext rfl h
  rw [connectStation, hcall]
  exact ⟨rfl, rfl, s.session_stopProvisioning⟩

/-- A join that the radio refuses leaves neither an attempt nor a session. -/
theorem connectStation_of_error {c : Credentials} {s : Supervisor ρ} {e : RadioError}
    (h : (Radio.join c s.stopProvisioning.hub.radio).result = .error e) :
    (s.connectStation c).2 = .error (.radio e) ∧ (s.connectStation c).1.state = .idle ∧
      (s.connectStation c).1.session = none := by
  have hcall : s.stopProvisioning.call (Radio.join c) =
      ((s.stopProvisioning.call (Radio.join c)).1, .error e) := Prod.ext rfl h
  rw [connectStation, hcall]
  exact ⟨rfl, rfl, s.session_stopProvisioning⟩

/-- A join that the radio refuses leaves nobody connected. -/
theorem connectivity_connectStation_of_error {c : Credentials} {s : Supervisor ρ} {e : RadioError}
    (h : (Radio.join c s.stopProvisioning.hub.radio).result = .error e) :
    (s.connectStation c).1.hub.connectivity = .disconnected := by
  have hcall : s.stopProvisioning.call (Radio.join c) =
      ((s.stopProvisioning.call (Radio.join c)).1, .error e) := Prod.ext rfl h
  rw [connectStation, hcall]
  rfl

/-- What the radio is after a join, whether it accepted it or not. -/
theorem radio_connectStation (c : Credentials) (s : Supervisor ρ) :
    (s.connectStation c).1.hub.radio = (Radio.join c s.hub.radio).radio := by
  have hcall : (s.stopProvisioning.call (Radio.join c)).1.hub.radio =
      (Radio.join c s.hub.radio).radio := by
    rw [← radio_stopProvisioning s]
    rfl
  rw [connectStation]
  split <;> rename_i heq <;> rwa [heq] at hcall

/-- Joining a network ends the session in either case. -/
theorem session_connectStation (c : Credentials) (s : Supervisor ρ) :
    (s.connectStation c).1.session = none := by
  cases h : (Radio.join c s.stopProvisioning.hub.radio).result with
  | ok _ => exact (connectStation_of_ok h).2.2
  | error e => exact (connectStation_of_error h).2.2

/-! ### Handling events -/

/-- Outside station mode nothing that the radio reports matters. -/
theorem handleLink_of_not_isStation {s : Supervisor ρ} (h : s.state.isStation = false)
    (e : LinkEvent) : s.handleLink e = s := by
  cases e <;> simp [handleLink, h]

/-- Handling an event keeps what is stored and what waits, up to the record that it may clear. -/
theorem keeps_handleEvent (e : Event) (s : Supervisor ρ) :
    s.Keeps (s.handleEvent e) ∨ s.cleared.Keeps (s.handleEvent e) := by
  cases e with
  | submitted c => exact .inl (s.keeps_connectStation c)
  | link e =>
      cases e with
      | stationDisconnected reason =>
          simp only [handleEvent, handleLink]
          split
          · rw [linkLost]
            split
            · exact .inr s.keeps_clearAndRestart
            · refine .inl (Keeps.trans ?_ (keeps_call _ Radio.rejoin))
              exact ⟨rfl, rfl, rfl, id⟩
          · exact .inl (.rfl s)
      | stationConnected | gotIp ip =>
          simp only [handleEvent, handleLink]
          split <;> exact .inl ⟨rfl, rfl, rfl, id⟩
      | stationStarted | clientJoined | clientLeft | clientGotIp => exact .inl (.rfl s)

omit [Radio ρ] in
/-- The oldest event is taken from what waits. -/
theorem submissions_withEvents {s : Supervisor ρ} {e : Event} {rest : List Event}
    (h : s.hub.inbox.events = e :: rest) :
    s.submissions = e.credentials?.toList ++ (s.withEvents rest).submissions := by
  simp only [submissions, Inbox.submissions, h, withEvents]
  cases e <;> rfl

/-- **Induction along a drain**: what handling the oldest event preserves holds afterwards. -/
theorem drain_induct {P : Supervisor ρ → Prop}
    (hstep : ∀ (s : Supervisor ρ) (e : Event) (rest : List Event),
      s.hub.inbox.events = e :: rest → P s → P ((s.withEvents rest).handleEvent e))
    {s : Supervisor ρ} (h : P s) : P s.drain := by
  rw [drain]
  fun_induction processEvents s with
  | case1 s hnil => exact h
  | case2 s e rest hcons t handled heq ih =>
      have ht := ih (hstep s e rest hcons h)
      rwa [heq] at ht

/-- After a drain nothing waits. -/
theorem events_drain (s : Supervisor ρ) : s.drain.hub.inbox.events = [] :=
  s.inbox_processEvents

/-- After a drain no credentials wait. -/
theorem submissions_drain (s : Supervisor ρ) : s.drain.submissions = [] := by
  rw [submissions, Inbox.submissions, s.events_drain]
  rfl

/-- What clearing the record preserves of a store is preserved by a drain. -/
theorem store_drain_induct {P : Store → Prop} (hclear : ∀ s : Store, P s → P s.clearRecord.1)
    {s : Supervisor ρ} (h : P s.hub.store) : P s.drain.hub.store := by
  refine drain_induct (P := fun t => P t.hub.store) ?_ h
  intro t e rest _ ht
  rcases (t.withEvents rest).keeps_handleEvent e with hkeeps | hkeeps
  · rw [hkeeps.store_eq]
    exact ht
  · rw [hkeeps.store_eq]
    exact hclear _ ht

end Supervisor

end Onboarding
