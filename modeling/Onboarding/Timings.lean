/-!
# Waits of the device

How long the device waits at each point, in milliseconds.
-/

namespace Onboarding

/-- The waits between steps, polls and attempts. -/
structure Timings where
  /-- Between two steps. -/
  loopTick : Nat
  /-- Between two looks at the store while the portal is open. -/
  apPoll : Nat
  /-- After the portal could not be opened. -/
  apRetry : Nat
  /-- Between two looks at the connection while the station joins. -/
  wifiPoll : Nat
  /-- Before the first probe of a connection. -/
  probeSettle : Nat
  /-- After a failed probe. -/
  probeRetry : Nat
  /-- After a refused signing request. -/
  csrBackoff : Nat
  /-- Between two looks at a session that is connecting. -/
  messagingPoll : Nat
  /-- How long a session may take to connect. -/
  messagingTimeout : Nat
  /-- After a failed session. -/
  messagingBackoff : Nat
  /-- Between two looks at an open session. -/
  operationalPoll : Nat
  /-- Between two steps of a device that gave up. -/
  errorWait : Nat
  /-- Between switching the radio off and opening the portal again. -/
  restartDelay : Nat
  deriving Repr, DecidableEq

namespace Timings

/-- The waits of a device in use. -/
def standard : Timings where
  loopTick := 100
  apPoll := 2000
  apRetry := 5000
  wifiPoll := 1000
  probeSettle := 2000
  probeRetry := 5000
  csrBackoff := 5000
  messagingPoll := 1000
  messagingTimeout := 30000
  messagingBackoff := 5000
  operationalPoll := 1000
  errorWait := 10000
  restartDelay := 1000

/-- No waits. -/
def immediate : Timings where
  loopTick := 0
  apPoll := 0
  apRetry := 0
  wifiPoll := 0
  probeSettle := 0
  probeRetry := 0
  csrBackoff := 0
  messagingPoll := 0
  messagingTimeout := 0
  messagingBackoff := 0
  operationalPoll := 0
  errorWait := 0
  restartDelay := 0

/-- The waits by name. -/
def entries (t : Timings) : List (String × Nat) :=
  [("loop_tick", t.loopTick), ("ap_poll", t.apPoll), ("ap_retry", t.apRetry),
    ("wifi_poll", t.wifiPoll), ("probe_settle", t.probeSettle), ("probe_retry", t.probeRetry),
    ("csr_backoff", t.csrBackoff), ("messaging_poll", t.messagingPoll),
    ("messaging_timeout", t.messagingTimeout), ("messaging_backoff", t.messagingBackoff),
    ("operational_poll", t.operationalPoll), ("error_wait", t.errorWait),
    ("restart_delay", t.restartDelay)]

/-- How often a connecting session is looked at again before it is given up. -/
def messagingPolls (t : Timings) : Nat :=
  t.messagingTimeout / t.messagingPoll

end Timings

end Onboarding
