/-!
# The stages of a device

A device goes through ten stages from boot to an established messaging session. Counters of failed
attempts survive from step to step; entering a stage resets those that start anew with it, staying
in a stage resets nothing.

## Main statements

* `stage_enter`: the device is in the stage that it entered.
-/

namespace Onboarding

/-- Where a device stands between boot and an established session. -/
inductive Stage where
  | init
  | checkProvisioned
  | apMode
  | connectingWifi
  | wifiConnected
  | checkCertificates
  | submittingCsr
  | connectingMessaging
  | operational
  /-- Only a reboot leaves this one. -/
  | error
  deriving Repr, DecidableEq

namespace Stage

/-- The displayed name of a stage. -/
def name : Stage → String
  | init => "INIT"
  | checkProvisioned => "CHECK_PROVISIONED"
  | apMode => "AP_MODE"
  | connectingWifi => "CONNECTING_WIFI"
  | wifiConnected => "WIFI_CONNECTED"
  | checkCertificates => "CHECK_CERTIFICATES"
  | submittingCsr => "SUBMITTING_CSR"
  | connectingMessaging => "CONNECTING_MESSAGING"
  | operational => "OPERATIONAL"
  | error => "ERROR"

/-- All stages. -/
def all : List Stage :=
  [init, checkProvisioned, apMode, connectingWifi, wifiConnected, checkCertificates, submittingCsr,
    connectingMessaging, operational, error]

/-- The stage with a displayed name. -/
def ofName? (n : String) : Option Stage :=
  all.find? (·.name == n)

end Stage

/-- Probes that may fail before the credentials are given up. -/
def maxProbeAttempts : Nat := 2

/-- Sessions that may fail before the device gives up. -/
def maxMessagingAttempts : Nat := 3

/-- Looks at an open session between two signs of life. -/
def heartbeatInterval : Nat := 30

/-- What is counted across steps. -/
structure Counters where
  /-- Failed probes of the present connection. -/
  probeAttempts : Nat := 0
  /-- Failed sessions since the last one that was established, or since access point mode. -/
  messagingAttempts : Nat := 0
  /-- Looks at the open session since the last sign of life. -/
  operationalChecks : Nat := 0
  /-- Whether a station connection was asked for. -/
  stationRequested : Bool := false
  deriving Repr, DecidableEq

/-- The stage of a device and its counters. -/
structure Lifecycle where
  stage : Stage := .init
  counters : Counters := {}
  deriving Repr, DecidableEq

namespace Lifecycle

/-- The counters as a stage finds them when it is entered from another. -/
def reset (c : Counters) : Stage → Counters
  | .apMode => { c with probeAttempts := 0, messagingAttempts := 0 }
  | .wifiConnected => { c with probeAttempts := 0 }
  | .connectingWifi => { c with stationRequested := false }
  | .operational => { c with messagingAttempts := 0, operationalChecks := 0 }
  | _ => c

/-- Goes on to a stage. -/
def enter (l : Lifecycle) (next : Stage) : Lifecycle :=
  if next = l.stage then l else { stage := next, counters := reset l.counters next }

theorem stage_enter (l : Lifecycle) (next : Stage) : (l.enter next).stage = next := by
  unfold enter
  split
  · simp_all
  · rfl

end Lifecycle

end Onboarding
