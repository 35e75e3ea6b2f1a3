import Onboarding.Radio.Basic

/-!
# A radio that follows a script

Each kind of call is accepted or refused as the script says, and every call but a scan is written
down in the order of the calls; scans are counted. The radio has no events of its own.
-/

namespace Onboarding

/-- A call that a radio received, and whether it accepted it. -/
inductive RadioCall where
  | startAccessPoint (settings : AccessPoint) (accepted : Bool)
  | join (credentials : Credentials) (accepted : Bool)
  | rejoin (accepted : Bool)
  | stop (accepted : Bool)
  deriving Repr, DecidableEq

/-- The refusals of a script, none where calls are accepted. -/
structure RadioScript where
  scan : Option RadioError := none
  startAccessPoint : Option RadioError := none
  join : Option RadioError := none
  rejoin : Option RadioError := none
  stop : Option RadioError := none
  deriving Repr, DecidableEq

/-- A radio with its script and its records. -/
structure ScriptedRadio where
  networks : List Network
  script : RadioScript := {}
  /-- Whether scans take longer than anyone waits for them. -/
  hanging : Bool := false
  scans : Nat := 0
  /-- The calls so far, oldest first. -/
  calls : List RadioCall := []

namespace ScriptedRadio

/-- What a scan finds now. -/
def view (r : ScriptedRadio) : ScanReply :=
  match r.script.scan with
  | some e => .failed e
  | none => .found r.networks

/-- Counts a scan. -/
def scan (r : ScriptedRadio) : ScriptedRadio × ScanReply :=
  ({ r with scans := r.scans + 1 }, if r.hanging then .pending else r.view)

/-- Writes a call down and answers it. -/
def answer (r : ScriptedRadio) (refusal : Option RadioError) (call : Bool → RadioCall) :
    RadioAnswer ScriptedRadio :=
  { radio := { r with calls := r.calls ++ [call refusal.isNone] }
    result := match refusal with
      | some e => .error e
      | none => .ok () }

/-- Why joining is refused: the script, or credentials that no network accepts. -/
def joinRefusal (r : ScriptedRadio) (c : Credentials) : Option RadioError :=
  r.script.join.or (if c.isValid then none else some .stationCredentials)

instance : Radio ScriptedRadio where
  scan := scan
  startAccessPoint a r := r.answer r.script.startAccessPoint (.startAccessPoint a)
  join c r := r.answer (r.joinRefusal c) (.join c)
  rejoin r := r.answer r.script.rejoin .rejoin
  stop r := r.answer r.script.stop .stop
  startAccessPoint_events _ _ := rfl
  stop_events _ := rfl
  join_weights _ _ := Nat.zero_le _
  rejoin_weights _ := Nat.zero_le _

end ScriptedRadio

end Onboarding
