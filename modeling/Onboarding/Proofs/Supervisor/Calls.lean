import Onboarding.Proofs.Radio.Logged
import Onboarding.Proofs.Supervisor.Lasting

/-!
# What a supervisor asks of its radio

Over a radio with a log, each operation adds its calls to the log: a network is joined with one
call, the portal is opened with one call for the access point, and a restart switches the radio off
before that. Calls are never taken back.

## Main results

* `Supervisor.calls_opening`, `Supervisor.calls_startProvisioning`,
  `Supervisor.calls_connectStation`, `Supervisor.calls_handle`: the calls of each operation.
* `Supervisor.calls_prefix_clearAndRestart`, `Supervisor.calls_prefix_drain`: the log only grows.
-/

namespace Onboarding

/-- A call that switches the radio off joins nothing. -/
theorem RadioNote.isJoin_of_isStop {x : RadioNote} (h : x.isStop = true) : x.isJoin = false := by
  cases x with
  | scan => rfl
  | call c => cases c <;> first | rfl | simp [isStop] at h

namespace Supervisor

variable {ρ : Type}

/-- The calls that the radio received. -/
def calls (s : Supervisor (LoggedRadio ρ)) : List RadioNote :=
  s.hub.radio.log

variable [Radio ρ] (s : Supervisor (LoggedRadio ρ))

/-! ### The portal -/

/-- Opening a session calls nobody, or switches the radio off. -/
theorem calls_openSession :
    ∃ added, s.openSession.1.calls = s.calls ++ added ∧ ∀ x ∈ added, x.isStop = true := by
  rw [openSession]
  dsimp only
  split
  · exact ⟨[.call (.stop _)], rfl, by simp [RadioNote.isStop]⟩
  · exact ⟨[], (List.append_nil _).symm, by simp⟩

/-- The access point is asked for with one call. -/
theorem calls_announced :
    s.announced.calls = s.calls ++ [.call (.startAccessPoint s.accessPoint
      (Radio.startAccessPoint s.accessPoint s.hub.radio).result.isOk)] :=
  congrArg LoggedRadio.log s.radio_announced

/-- A portal that does not accept requests is opened with one call for the access point; then the
radio scans and is switched off at most. -/
theorem calls_opening (hlisten : s.isListening = false) :
    ∃ later, s.startProvisioning.1.calls = s.calls ++ .call (.startAccessPoint s.accessPoint
        (Radio.startAccessPoint s.accessPoint s.hub.radio).result.isOk) :: later ∧
      ∀ x ∈ later, x = .scan ∨ x.isStop = true := by
  cases hresult : (Radio.startAccessPoint s.accessPoint s.hub.radio).result with
  | error e =>
      rw [startProvisioning_of_error hlisten hresult, calls_announced, hresult]
      exact ⟨[], rfl, by simp⟩
  | ok _ =>
      rw [startProvisioning_of_ok hlisten hresult]
      obtain ⟨added, hadded, hstops⟩ :=
        calls_openSession { s.announced with hub := s.announced.hub.refreshCache.1 }
      have hscan : ({ s.announced with hub := s.announced.hub.refreshCache.1 } :
          Supervisor (LoggedRadio ρ)).calls = s.announced.calls ++ [.scan] := rfl
      refine ⟨.scan :: added, ?_, ?_⟩
      · rw [hadded, hscan, calls_announced, hresult]
        simp
      · intro x hx
        exact (List.mem_cons.mp hx).imp id (hstops x)

/-- Opening the portal joins nothing. -/
theorem calls_startProvisioning :
    ∃ added, s.startProvisioning.1.calls = s.calls ++ added ∧ ∀ x ∈ added, x.isJoin = false := by
  cases hlisten : s.isListening with
  | true =>
      rw [startProvisioning, if_pos hlisten]
      exact ⟨[], (List.append_nil _).symm, by simp⟩
  | false =>
      obtain ⟨later, hcalls, hlater⟩ := s.calls_opening hlisten
      refine ⟨_, hcalls, ?_⟩
      intro x hx
      rcases List.mem_cons.mp hx with rfl | hx
      · rfl
      · rcases hlater x hx with rfl | hstop
        · rfl
        · exact RadioNote.isJoin_of_isStop hstop

/-! ### Networks and requests -/

/-- Joining a network is one call. -/
theorem calls_connectStation (c : Credentials) :
    (s.connectStation c).1.calls =
      s.calls ++ [.call (.join c (Radio.join c s.stopProvisioning.hub.radio).result.isOk)] := by
  rw [radio_stopProvisioning]
  exact congrArg LoggedRadio.log (radio_connectStation c s)

/-- A request joins nothing. -/
theorem calls_handle (r : Request) :
    ∃ added, (s.handle r).1.calls = s.calls ++ added ∧ ∀ x ∈ added, x.isJoin = false := by
  rcases s.scansAtMost_handle r with hsame | hscanned
  · exact ⟨[], (congrArg LoggedRadio.log hsame).trans (List.append_nil _).symm, by simp⟩
  · exact ⟨[.scan], congrArg LoggedRadio.log hscanned, by simp [RadioNote.isJoin]⟩

/-! ### Restarts -/

/-- The supervisor with its record cleared, its portal closed and its radio switched off. -/
def switchedOff : Supervisor (LoggedRadio ρ) :=
  (s.cleared.stopProvisioning.call Radio.stop).1.toIdle

/-- Restarting is to switch everything off and open the portal. -/
theorem clearAndRestart_eq : s.clearAndRestart = s.switchedOff.startProvisioning.1 :=
  rfl

theorem keeps_switchedOff : s.cleared.Keeps s.switchedOff :=
  s.cleared.keeps_stopProvisioning.trans ((keeps_call _ Radio.stop).trans (keeps_toIdle _))

/-- Switching everything off is one call. -/
theorem calls_switchedOff :
    ∃ accepted, s.switchedOff.calls = s.calls ++ [.call (.stop accepted)] := by
  have hcleared : s.cleared.stopProvisioning.calls = s.calls :=
    congrArg LoggedRadio.log s.cleared.radio_stopProvisioning
  rw [← hcleared]
  exact ⟨_, rfl⟩

/-! ### The log only grows -/

/-- No call takes entries from the log. -/
theorem lasting_calls (earlier : List RadioNote) :
    Radio.Lasting fun r : LoggedRadio ρ => earlier <+: r.log where
  scan _ h := h.trans (List.prefix_append _ _)
  startAccessPoint _ _ h := h.trans (List.prefix_append _ _)
  join _ _ h := h.trans (List.prefix_append _ _)
  rejoin _ h := h.trans (List.prefix_append _ _)
  stop _ h := h.trans (List.prefix_append _ _)

/-- Calls are added to the log, and never taken back, when the record is cleared. -/
theorem calls_prefix_clearAndRestart : s.calls <+: s.clearAndRestart.calls :=
  (lasting_calls s.calls).clearAndRestart (List.prefix_refl _)

/-- Nor in a drain. -/
theorem calls_prefix_drain : s.calls <+: s.drain.calls :=
  (lasting_calls s.calls).drain (List.prefix_refl _)

end Supervisor

end Onboarding
