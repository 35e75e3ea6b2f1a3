import Onboarding.Proofs.Supervisor.Operations
import Onboarding.Proofs.Supervisor.Requests

/-!
# What no call of a radio changes

A supervisor changes its radio by the calls of its class and in no other way. What is true of a
radio and stays true whatever it is called for (`Radio.Lasting`) therefore stays true whatever a
supervisor does.

## Main results

* `Radio.Lasting.startProvisioning`, `Radio.Lasting.connectStation`,
  `Radio.Lasting.clearAndRestart`: operations.
* `Radio.Lasting.handleEvent`, `Radio.Lasting.drain`: events.
* `Radio.Lasting.handle`: requests.
-/

namespace Onboarding

variable {ρ : Type} [Radio ρ]

/-- What stays true of a radio whatever it is called for. -/
structure Radio.Lasting (P : ρ → Prop) : Prop where
  scan : ∀ r, P r → P (Radio.scan r).1
  startAccessPoint : ∀ a r, P r → P (Radio.startAccessPoint a r).radio
  join : ∀ c r, P r → P (Radio.join c r).radio
  rejoin : ∀ r, P r → P (Radio.rejoin r).radio
  stop : ∀ r, P r → P (Radio.stop r).radio

namespace Radio.Lasting

variable {P : ρ → Prop} {s : Supervisor ρ}

/-! ### Operations -/

theorem openSession (hP : Radio.Lasting P) (h : P s.hub.radio) : P s.openSession.1.hub.radio := by
  rw [Supervisor.openSession]
  dsimp only
  split
  · exact hP.stop _ h
  · exact h

theorem startProvisioning (hP : Radio.Lasting P) (h : P s.hub.radio) :
    P s.startProvisioning.1.hub.radio := by
  cases hlisten : s.isListening with
  | true =>
      rw [Supervisor.startProvisioning, if_pos hlisten]
      exact h
  | false =>
      have hannounced : P s.announced.hub.radio := by
        rw [Supervisor.radio_announced]
        exact hP.startAccessPoint _ _ h
      cases hresult : (Radio.startAccessPoint s.accessPoint s.hub.radio).result with
      | ok _ =>
          rw [Supervisor.startProvisioning_of_ok hlisten hresult]
          exact hP.openSession (hP.scan _ hannounced)
      | error e =>
          rw [Supervisor.startProvisioning_of_error hlisten hresult]
          exact hannounced

theorem connectStation (hP : Radio.Lasting P) (h : P s.hub.radio) (c : Credentials) :
    P (s.connectStation c).1.hub.radio := by
  rw [Supervisor.radio_connectStation]
  exact hP.join c _ h

theorem ensureStation (hP : Radio.Lasting P) (h : P s.hub.radio) (c : Credentials) :
    P (s.ensureStation c).1.hub.radio := by
  rw [Supervisor.ensureStation]
  split
  · exact h
  · exact hP.connectStation h c

theorem clearAndRestart (hP : Radio.Lasting P) (h : P s.hub.radio) :
    P s.clearAndRestart.hub.radio := by
  have hstopped : P s.cleared.stopProvisioning.hub.radio := by
    rw [Supervisor.radio_stopProvisioning]
    exact h
  exact hP.startProvisioning (hP.stop _ hstopped)

/-! ### Events -/

theorem handleEvent (hP : Radio.Lasting P) (h : P s.hub.radio) (e : Event) :
    P (s.handleEvent e).hub.radio := by
  cases e with
  | submitted c => exact hP.connectStation h c
  | link e =>
      cases hstation : s.state.isStation with
      | false =>
          rw [Supervisor.handleEvent, Supervisor.handleLink_of_not_isStation hstation]
          exact h
      | true =>
          cases e with
          | stationStarted | clientJoined | clientLeft | clientGotIp => exact h
          | stationConnected | gotIp =>
              rw [Supervisor.handleEvent, Supervisor.handleLink, if_pos hstation]
              exact h
          | stationDisconnected reason =>
              rw [Supervisor.handleEvent, Supervisor.handleLink, if_pos hstation,
                Supervisor.linkLost]
              split
              · exact hP.clearAndRestart h
              · exact hP.rejoin _ h

theorem drain (hP : Radio.Lasting P) (h : P s.hub.radio) : P s.drain.hub.radio :=
  Supervisor.drain_induct (P := fun t => P t.hub.radio)
    (fun t e rest _ ht => hP.handleEvent (s := t.withEvents rest) ht e) h

/-! ### Requests -/

theorem handle (hP : Radio.Lasting P) (h : P s.hub.radio) (r : Request) :
    P (s.handle r).1.hub.radio := by
  rcases s.scansAtMost_handle r with hsame | hscanned
  · rw [hsame]
    exact h
  · rw [hscanned]
    exact hP.scan _ h

end Radio.Lasting

end Onboarding
