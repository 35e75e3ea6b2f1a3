import Onboarding.Proofs.Logs
import Onboarding.Radio.Scripted

/-!
# Radios with a log

`LoggedRadio ρ` is the radio `ρ` with a log of every call that it received and whether it accepted
it. It answers as the radio itself does, so what is said of its log is said of the calls that any
radio receives.

A radio is engaged from a join that it accepted until it is switched off (`RadioNote.Engaged`).
-/

namespace Onboarding

/-- What a radio was asked for. -/
inductive RadioNote where
  | scan
  | call (call : RadioCall)
  deriving DecidableEq

namespace RadioNote

/-- Whether a call joins a network, and the radio accepts it. -/
def isAcceptedJoin : RadioNote → Bool
  | call (.join _ accepted) => accepted
  | _ => false

/-- Whether a call joins a network. -/
def isJoin : RadioNote → Bool
  | call (.join _ _) => true
  | _ => false

/-- Whether a call joins the network again that was joined last. -/
def isRejoin : RadioNote → Bool
  | call (.rejoin _) => true
  | _ => false

/-- Whether a call switches the radio off. -/
def isStop : RadioNote → Bool
  | call (.stop _) => true
  | _ => false

/-- Whether a join was accepted since the radio was switched off. -/
def Engaged (log : List RadioNote) : Prop :=
  Pending isAcceptedJoin isStop log

/-- Nobody is engaged by calls that join nothing. -/
theorem not_engaged_append {log added : List RadioNote} (h : ¬Engaged log)
    (hadded : ∀ x ∈ added, x.isJoin = false) : ¬Engaged (log ++ added) := by
  have hopens : ∀ x ∈ added, x.isAcceptedJoin = false := by
    intro x hx
    have hjoin := hadded x hx
    cases x with
    | scan => rfl
    | call c => cases c <;> first | rfl | simp [isJoin] at hjoin
  rw [Engaged, pending_append hopens]
  exact fun hpending => h hpending.1

/-- A radio that is switched off is not engaged. -/
theorem not_engaged_stop (log : List RadioNote) (accepted : Bool) :
    ¬Engaged (log ++ [.call (.stop accepted)]) := by
  rw [Engaged, pending_concat]
  simp [isAcceptedJoin, isStop]

/-- A join engages a radio if it is accepted. -/
theorem engaged_join {log : List RadioNote} (h : ¬Engaged log) {c : Credentials} {accepted : Bool} :
    Engaged (log ++ [.call (.join c accepted)]) ↔ accepted = true := by
  rw [Engaged] at h
  rw [Engaged, pending_concat]
  simp [isAcceptedJoin, h]

end RadioNote

/-- A radio with the log of its calls, oldest first. -/
structure LoggedRadio (ρ : Type) where
  radio : ρ
  log : List RadioNote := []

/-- A radio's answer with a note of it in the log. -/
def RadioAnswer.noted {ρ : Type} (a : RadioAnswer ρ) (log : List RadioNote)
    (note : Bool → RadioCall) : RadioAnswer (LoggedRadio ρ) where
  radio := ⟨a.radio, log ++ [.call (note a.result.isOk)]⟩
  result := a.result
  events := a.events

instance {ρ : Type} [Radio ρ] : Radio (LoggedRadio ρ) where
  scan r := (⟨(Radio.scan r.radio).1, r.log ++ [.scan]⟩, (Radio.scan r.radio).2)
  startAccessPoint a r := (Radio.startAccessPoint a r.radio).noted r.log (.startAccessPoint a)
  join c r := (Radio.join c r.radio).noted r.log (.join c)
  rejoin r := (Radio.rejoin r.radio).noted r.log .rejoin
  stop r := (Radio.stop r.radio).noted r.log .stop
  startAccessPoint_events a r := Radio.startAccessPoint_events a r.radio
  stop_events r := Radio.stop_events r.radio
  join_weights c r := Radio.join_weights c r.radio
  rejoin_weights r := Radio.rejoin_weights r.radio

end Onboarding
