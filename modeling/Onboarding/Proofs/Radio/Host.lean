import Onboarding.Radio.Host

/-!
# What a host's radio answers

A join is refused exactly where no network accepts the credentials. Where it is not, its outcome is
reported with the answer: a new address if the network is listed, and otherwise a lost link that
blames the credentials. In station mode a lost link is always joined again.

## Main results

* `HostRadio.result_join`, `HostRadio.radio_join`: which joins are accepted, and the radio then.
* `HostRadio.join_of_listed`, `HostRadio.join_of_unlisted`, `HostRadio.events_join_of_invalid`: what
  is reported of a join.
-/

namespace Onboarding

namespace HostRadio

variable {c : Credentials} {r : HostRadio}

/-- A network that is out of range is taken for one that refuses the credentials. -/
theorem classify_noNetworkFound : Disconnect.classify noNetworkFound = .credentialRejected :=
  (Disconnect.classify_eq_rejected_iff _).mpr (by decide)

/-- A network is listed if one of the networks has its name. -/
theorem lists_iff {ssid : String} :
    r.lists ssid = true ↔ ∃ n ∈ r.networks, n.ssid = ssid := by
  simp [lists]

/-- A host radio refuses a network exactly if no network accepts the credentials. -/
theorem result_join (c : Credentials) (r : HostRadio) :
    (Radio.join c r).result =
      if c.isValid then .ok () else .error RadioError.stationCredentials := by
  change (HostRadio.join c r).result = _
  rw [HostRadio.join]
  split <;> rfl

/-- A host radio whose join is accepted is in station mode, listed or not. -/
theorem radio_join (c : Credentials) (r : HostRadio) :
    (Radio.join c r).radio = if c.isValid then { r with mode := .station } else r := by
  change (HostRadio.join c r).radio = _
  rw [HostRadio.join]
  split <;> rfl

/-- A listed network is joined at once. -/
theorem join_of_listed (hvalid : c.isValid = true) (hlists : r.lists c.ssid = true) :
    Radio.join c r =
      { radio := { r with mode := .station }
        result := .ok ()
        events := [.stationStarted, .stationConnected, .gotIp r.address] } := by
  change HostRadio.join c r = _
  rw [HostRadio.join, if_pos hvalid, if_pos hlists]
  rfl

/-- A network that is not listed is lost at once. -/
theorem join_of_unlisted (hvalid : c.isValid = true) (hlists : r.lists c.ssid = false) :
    Radio.join c r =
      { radio := { r with mode := .station }
        result := .ok ()
        events := [.stationStarted, .stationDisconnected noNetworkFound] } := by
  change HostRadio.join c r = _
  rw [HostRadio.join, if_pos hvalid, if_neg (by simp [hlists])]

/-- A refused join is not reported on. -/
theorem events_join_of_invalid (hvalid : c.isValid = false) : (Radio.join c r).events = [] := by
  change (HostRadio.join c r).events = []
  rw [HostRadio.join, if_neg (by simp [hvalid])]

/-- In station mode a link is joined again at once. -/
theorem rejoin_of_station (h : r.mode = .station) :
    Radio.rejoin r =
      { radio := r, result := .ok (), events := [.stationConnected, .gotIp r.address] } := by
  change HostRadio.rejoin r = _
  rw [HostRadio.rejoin, if_pos h]
  rfl

/-- In any other mode it is not. -/
theorem rejoin_of_not_station (h : r.mode ≠ .station) :
    Radio.rejoin r = { radio := r, result := .error .notStarted } := by
  change HostRadio.rejoin r = _
  rw [HostRadio.rejoin, if_neg h]

end HostRadio

end Onboarding
