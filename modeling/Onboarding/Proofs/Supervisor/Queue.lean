import Onboarding.Proofs.Supervisor.Operations

/-!
# How a queue is drained

A drain handles the oldest event again and again until none is left (`Supervisor.after`). What is
put into the queue meanwhile is what the radio reports: joining a network brings reports, and so
does joining it again, and nothing else does (`Supervisor.inbox_handleEvent`). Nothing but a drain
takes events out.

## Main results

* `Supervisor.inbox_startProvisioning`, `Supervisor.inbox_connectStation`,
  `Supervisor.inbox_clearAndRestart`: what each operation does to the queue.
* `Supervisor.inbox_handleEvent`: what an event brings.
* `Supervisor.after_handled`, `Supervisor.events_after_ne_nil`: a drain is as many turns as it
  handles events, and it goes on for as long as there are any.
* `Supervisor.length_le_handled`: no event is left out.
-/

namespace Onboarding

namespace Inbox

/-- A queue into which nothing is put stays as it is. -/
@[simp] theorem push_nil (i : Inbox) : i.push [] = i := by
  rw [push, List.append_nil]
  split <;> rfl

/-- A queue that is read takes in what is put into it. -/
theorem events_push_of_open {i : Inbox} (h : i.closed = false) (es : List Event) :
    (i.push es).events = i.events ++ es := by
  rw [push, h]
  rfl

/-- What waits goes on waiting when events are put behind it. -/
theorem mem_push {i : Inbox} {e : Event} (h : e ∈ i.events) (es : List Event) :
    e ∈ (i.push es).events := by
  rw [push]
  split
  · exact h
  · exact List.mem_append_left es h

/-- Putting events into a queue never takes any out. -/
theorem length_le_push (i : Inbox) (es : List Event) :
    i.events.length ≤ (i.push es).events.length := by
  rw [push]
  split
  · exact Nat.le_refl _
  · rw [List.length_append]
    exact Nat.le_add_right _ _

end Inbox

namespace Supervisor

variable {ρ : Type}

/-! ### What operations put into the queue -/

/-- A call that the radio does not report on puts nothing into the queue. -/
theorem inbox_call_of_quiet (s : Supervisor ρ) {f : ρ → RadioAnswer ρ}
    (h : ∀ r, (f r).events = []) : (s.call f).1.hub.inbox = s.hub.inbox := by
  have hcall : (s.call f).1.hub.inbox = s.hub.inbox.push ((f s.hub.radio).events.map .link) := rfl
  rw [hcall, h, List.map_nil, Inbox.push_nil]

variable [Radio ρ]

theorem inbox_openSession (s : Supervisor ρ) : s.openSession.1.hub.inbox = s.hub.inbox := by
  rw [openSession]
  dsimp only
  split
  · exact inbox_call_of_quiet _ Radio.stop_events
  · rfl

/-- Opening the portal puts nothing into the queue. -/
theorem inbox_startProvisioning (s : Supervisor ρ) :
    s.startProvisioning.1.hub.inbox = s.hub.inbox := by
  rw [startProvisioning]
  split
  · rfl
  · have hcall := s.stopProvisioning.inbox_call_of_quiet
      (Radio.startAccessPoint_events s.stopProvisioning.accessPoint)
    rw [inbox_stopProvisioning] at hcall
    dsimp only
    split
    · rename_i t e heq
      rwa [heq] at hcall
    · rename_i t heq
      rw [heq] at hcall
      exact (inbox_openSession _).trans hcall

/-- Joining a network puts the radio's reports into the queue. -/
theorem inbox_connectStation (c : Credentials) (s : Supervisor ρ) :
    (s.connectStation c).1.hub.inbox =
      s.hub.inbox.push ((Radio.join c s.hub.radio).events.map .link) := by
  have hcall : (s.stopProvisioning.call (Radio.join c)).1.hub.inbox =
      s.hub.inbox.push ((Radio.join c s.hub.radio).events.map .link) := by
    rw [← inbox_stopProvisioning s, ← radio_stopProvisioning s]
    rfl
  rw [connectStation]
  split <;> rename_i heq <;> rwa [heq] at hcall

/-- Clearing and restarting puts nothing into the queue. -/
theorem inbox_clearAndRestart (s : Supervisor ρ) :
    s.clearAndRestart.hub.inbox = s.hub.inbox := by
  have hstop : s.cleared.stopProvisioning.hub.inbox = s.hub.inbox :=
    s.cleared.inbox_stopProvisioning
  rw [clearAndRestart]
  exact (inbox_startProvisioning _).trans ((inbox_call_of_quiet _ Radio.stop_events).trans hstop)

/-- What the radio reports when an event is handled: it joins a network that was submitted, and
joins again where a link was lost that may come back. -/
def brings (s : Supervisor ρ) : Event → List LinkEvent
  | .submitted c => (Radio.join c s.hub.radio).events
  | .link (.stationDisconnected reason) =>
    if s.state.isStation = true ∧ Disconnect.classify reason = .transient then
      (Radio.rejoin s.hub.radio).events
    else []
  | .link _ => []

/-- **An event puts its reports into the queue** and nothing else. -/
theorem inbox_handleEvent (e : Event) (s : Supervisor ρ) :
    (s.handleEvent e).hub.inbox = s.hub.inbox.push ((s.brings e).map .link) := by
  cases e with
  | submitted c => exact s.inbox_connectStation c
  | link e =>
      cases hstation : s.state.isStation with
      | false =>
          have hnone : s.brings (.link e) = [] := by cases e <;> simp [brings, hstation]
          rw [handleEvent, handleLink_of_not_isStation hstation, hnone, List.map_nil,
            Inbox.push_nil]
      | true =>
          cases e with
          | stationStarted | clientJoined | clientLeft | clientGotIp =>
              exact s.hub.inbox.push_nil.symm
          | stationConnected | gotIp =>
              rw [handleEvent, handleLink, if_pos hstation]
              exact s.hub.inbox.push_nil.symm
          | stationDisconnected reason =>
              rw [handleEvent, handleLink, if_pos hstation, linkLost]
              cases hreason : Disconnect.classify reason with
              | credentialRejected =>
                  rw [brings, hreason, if_neg (by simp), List.map_nil, Inbox.push_nil]
                  exact s.inbox_clearAndRestart
              | transient =>
                  rw [brings, if_pos ⟨hstation, hreason⟩]
                  rfl

/-! ### Moments of a drain -/

/-- A drain without events does nothing. -/
theorem drain_of_nil {s : Supervisor ρ} (h : s.hub.inbox.events = []) : s.drain = s := by
  rw [drain, processEvents_of_nil h]

/-- A drain handles the oldest event first. -/
theorem drain_of_cons {s : Supervisor ρ} {e : Event} {rest : List Event}
    (h : s.hub.inbox.events = e :: rest) :
    s.drain = ((s.withEvents rest).handleEvent e).drain := by
  rw [drain, processEvents_of_cons h]
  rfl

/-- A drain does not close the queue. -/
theorem closed_drain (s : Supervisor ρ) : s.drain.hub.inbox.closed = s.hub.inbox.closed := by
  refine drain_induct (P := fun t => t.hub.inbox.closed = s.hub.inbox.closed) ?_ rfl
  intro t e rest _ ht
  rw [inbox_handleEvent, Inbox.closed_push]
  exact ht

/-- Handles the oldest event, if there is one. -/
def handleNext (s : Supervisor ρ) : Supervisor ρ :=
  match s.hub.inbox.events with
  | [] => s
  | e :: rest => (s.withEvents rest).handleEvent e

/-- The supervisor after a number of events was handled. -/
def after (s : Supervisor ρ) : Nat → Supervisor ρ
  | 0 => s
  | k + 1 => (s.after k).handleNext

/-- The oldest event is handled next. -/
theorem handleNext_of_cons {s : Supervisor ρ} {e : Event} {rest : List Event}
    (h : s.hub.inbox.events = e :: rest) : s.handleNext = (s.withEvents rest).handleEvent e := by
  simp only [handleNext, h]

/-- The oldest event is also handled first. -/
theorem after_succ (s : Supervisor ρ) (k : Nat) : s.after (k + 1) = s.handleNext.after k := by
  induction k with
  | zero => rfl
  | succ k ih =>
      calc s.after (k + 2) = (s.after (k + 1)).handleNext := rfl
        _ = (s.handleNext.after k).handleNext := by rw [ih]

/-- **A drain handles events one by one**, as many as it counts. -/
theorem after_handled (s : Supervisor ρ) : s.after s.processEvents.2 = s.drain := by
  rw [drain]
  fun_induction processEvents s with
  | case1 s hnil => rfl
  | case2 s e rest hcons t handled heq ih =>
      rw [heq] at ih
      rw [after_succ, handleNext_of_cons hcons]
      exact ih

/-- A drain goes on for as long as there are events. -/
theorem events_after_ne_nil (s : Supervisor ρ) {k : Nat} (h : k < s.processEvents.2) :
    (s.after k).hub.inbox.events ≠ [] := by
  fun_induction processEvents s generalizing k with
  | case1 s hnil => exact absurd h (Nat.not_lt_zero k)
  | case2 s e rest hcons t handled heq ih =>
      rw [heq] at ih
      cases k with
      | zero =>
          rw [after, hcons]
          exact List.cons_ne_nil e rest
      | succ k =>
          rw [after_succ, handleNext_of_cons hcons]
          exact ih (Nat.lt_of_succ_lt_succ h)

/-- **A drain leaves no event out**: it handles all that waited, and those that they brought. -/
theorem length_le_handled (s : Supervisor ρ) :
    s.hub.inbox.events.length ≤ s.processEvents.2 := by
  fun_induction processEvents s with
  | case1 s hnil =>
      rw [hnil]
      exact Nat.le_refl 0
  | case2 s e rest hcons t handled heq ih =>
      have hpush := (s.withEvents rest).hub.inbox.length_le_push
        (((s.withEvents rest).brings e).map .link)
      rw [← inbox_handleEvent] at hpush
      rw [heq] at ih
      have hrest : (s.withEvents rest).hub.inbox.events = rest := rfl
      rw [hrest] at hpush
      rw [hcons, List.length_cons]
      exact Nat.succ_le_succ (Nat.le_trans hpush ih)

end Supervisor

end Onboarding
