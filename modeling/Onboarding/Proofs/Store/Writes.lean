import Mathlib.Control.Monad.Basic
import Onboarding.Store.Records

/-!
# What changes do to look-ups

A store is known by its look-ups `Store.get?`. Every record operation is a list of changes and a
commit (`Store.perform`), so one statement about lists of changes says what each of them leaves
behind, on either backend. Reading is a matter of look-ups as well, so what is loaded after an
operation follows from its list of changes.

## Main results

* `Store.get?_perform`: after an operation that succeeds, each look-up is that of its last change.
* `Store.loadRecord_congr`: stores with the same flag and fields load the same record.
* `Store.loadRecord_saveRecord`: a saved record is the one that is loaded.
-/

namespace Onboarding

namespace Write

/-- What stands under the key of a change once it is made. -/
def value? : Write → Option Json
  | setText _ v => some (.text v)
  | setFlag _ b => some (.bool b)
  | erase _ => none

/-- What stands under `k` after a change, if `old` stood there before it. -/
def leaves (w : Write) (k : String) (old : Option Json) : Option Json :=
  if w.key = k then w.value? else old

/-- What stands under `k` after changes in their order, if `old` stood there before them. -/
def leavesAll (ws : List Write) (k : String) (old : Option Json) : Option Json :=
  ws.foldl (fun v w => w.leaves k v) old

/-- Changes to other keys leave what stands under a key. -/
theorem leavesAll_of_forall_ne {ws : List Write} {k : String} (h : ∀ w ∈ ws, w.key ≠ k)
    (old : Option Json) : leavesAll ws k old = old := by
  induction ws generalizing old with
  | nil => rfl
  | cons w ws ih =>
      have hw : w.leaves k old = old := if_neg (h w List.mem_cons_self)
      have hws : ∀ v ∈ ws, v.key ≠ k := fun v hv => h v (List.mem_cons_of_mem _ hv)
      calc leavesAll (w :: ws) k old = leavesAll ws k (w.leaves k old) := rfl
        _ = leavesAll ws k old := by rw [hw]
        _ = old := ih hws old

/-- What stands under a key after changes to it does not depend on what stood there before. -/
theorem leavesAll_of_exists_eq {ws : List Write} {k : String} (h : ∃ w ∈ ws, w.key = k)
    (old new : Option Json) : leavesAll ws k old = leavesAll ws k new := by
  induction ws generalizing old new with
  | nil =>
      obtain ⟨w, hw, -⟩ := h
      simp at hw
  | cons w ws ih =>
      have htail : ∀ v, leavesAll (w :: ws) k v = leavesAll ws k (w.leaves k v) := fun _ => rfl
      rw [htail, htail]
      by_cases hw : w.key = k
      · rw [leaves, leaves, if_pos hw, if_pos hw]
      · obtain ⟨v, hv, hvk⟩ := h
        rcases List.mem_cons.mp hv with rfl | hv
        · exact absurd hvk hw
        · exact ih ⟨v, hv, hvk⟩ _ _

/-- Erasing keys leaves nothing under them, and leaves what stands under any other key. -/
theorem leavesAll_erase (ks : List String) (k : String) (old : Option Json) :
    leavesAll (ks.map .erase) k old = if k ∈ ks then none else old := by
  induction ks generalizing old with
  | nil => rfl
  | cons j ks ih =>
      have htail : leavesAll ((j :: ks).map .erase) k old =
          leavesAll (ks.map .erase) k (if j = k then none else old) := rfl
      rw [htail, ih]
      by_cases hk : k ∈ ks
      · rw [if_pos hk, if_pos (List.mem_cons_of_mem _ hk)]
      · by_cases hj : j = k
        · simp [hj]
        · simp [hk, hj, Ne.symm hj]

end Write

namespace FileStore

/-- A staged change replaces the look-up of its key and no other. -/
theorem get?_change (s : FileStore) (w : Write) (k : String) :
    (s.change w).values.get? k = w.leaves k (s.values.get? k) := by
  cases w with
  | setText j v => exact s.values.get?_insert j _ k
  | setFlag j b => exact s.values.get?_insert j _ k
  | erase j => exact s.values.get?_erase j k

/-- Staging a change leaves everything else about the store. -/
theorem change_eq (s : FileStore) (w : Write) :
    s.change w = { s with values := (s.change w).values } := by
  cases w <;> rfl

end FileStore

/-- A change that is made replaces the look-up of its key and no other. -/
theorem MemoryStore.get?_change (s : MemoryStore) (w : Write) (k : String) :
    (s.change w).values.get? k =
      if w.key = k then
        match w with
        | .setText _ v => some (.text v)
        | .setFlag _ b => some (.flag b)
        | .erase _ => none
      else s.values.get? k := by
  cases w with
  | setText j v => exact s.get?_change_setText j v k
  | setFlag j b => exact s.get?_change_setFlag j b k
  | erase j => exact s.get?_change_erase j k

namespace Store

/-! ### Changes that are made -/

/-- A change that a memory makes replaces the look-up of its key and no other. -/
theorem get?_memory_change (m : MemoryStore) (w : Write) (k : String) :
    (memory (m.change w)).get? k = w.leaves k ((memory m).get? k) := by
  simp only [get?, MemoryStore.get?_change, Write.leaves]
  split
  · cases w <;> rfl
  · rfl

/-- A change that is made replaces the look-up of its key and no other. -/
theorem get?_apply {w : Write} {s t : Store} (h : s.apply w = (t, .ok ())) (k : String) :
    t.get? k = w.leaves k (s.get? k) := by
  cases s with
  | file f =>
      simp only [apply, Prod.mk.injEq] at h
      obtain ⟨rfl, -⟩ := h
      exact f.get?_change w k
  | memory m =>
      simp only [apply, MemoryStore.apply] at h
      split at h
      · simp at h
      · simp only [Prod.mk.injEq] at h
        obtain ⟨rfl, -⟩ := h
        exact get?_memory_change { m with faults := m.faults.next.2 } w k

/-- Changes that are all made leave each look-up as their last change to its key does. -/
theorem get?_applyAll {ws : List Write} {s t : Store} (h : s.applyAll ws = (t, .ok ()))
    (k : String) : t.get? k = Write.leavesAll ws k (s.get? k) := by
  induction ws generalizing s with
  | nil =>
      obtain ⟨rfl, -⟩ := Prod.mk.inj h
      rfl
  | cons w ws ih =>
      rw [applyAll] at h
      split at h
      · rename_i u hu
        rw [ih h, get?_apply hu k]
        rfl
      · simp at h

/-- A commit that succeeds changes no look-up. -/
theorem get?_commit {s t : Store} (h : s.commit = (t, .ok ())) (k : String) :
    t.get? k = s.get? k := by
  cases s with
  | memory m =>
      simp only [commit, MemoryStore.commit] at h
      split at h
      · simp at h
      · simp only [Prod.mk.injEq] at h
        obtain ⟨rfl, -⟩ := h
        rfl
  | file f =>
      simp only [commit, Prod.mk.injEq] at h
      obtain ⟨rfl, hr⟩ := h
      have hv : f.commit.1.values = f.values := FileStore.commit_values_of_ok (Prod.ext rfl hr)
      simp only [get?, hv]

/-- An operation whose changes and commit succeed leaves each look-up as the last of its changes to
that key does. -/
theorem get?_perform {ws : List Write} {s t : Store} (h : s.perform ws = (t, .ok ()))
    (k : String) : t.get? k = Write.leavesAll ws k (s.get? k) := by
  rw [perform] at h
  split at h
  · rename_i u hu
    rw [get?_commit h, get?_applyAll hu]
  · simp at h

/-- An operation that succeeds leaves every key that it has no change for as it was. -/
theorem get?_perform_of_not_mem {ws : List Write} {s t : Store} (h : s.perform ws = (t, .ok ()))
    {k : String} (hk : k ∉ ws.map Write.key) : t.get? k = s.get? k := by
  rw [get?_perform h]
  exact Write.leavesAll_of_forall_ne (fun w hw hkey => hk (List.mem_map.mpr ⟨w, hw, hkey⟩)) _

/-! ### The keys of each operation -/

theorem keys_saveWrites (r : DeviceRecord) :
    (saveWrites r).map Write.key = Key.record ++ [Key.provisioned] := by
  rw [saveWrites]
  cases r.bearerToken <;> rfl

theorem keys_clearWrites : clearWrites.map Write.key = Key.provisioned :: Key.record :=
  rfl

theorem keys_certificateWrites (c : Certificates) :
    (certificateWrites c).map Write.key = Key.certificates :=
  rfl

/-! ### Records by their look-ups -/

/-- Stores with the same flag and fields load the same record. -/
theorem loadRecord_congr {s t : Store}
    (h : ∀ k ∈ Key.provisioned :: Key.record, s.get? k = t.get? k) :
    s.loadRecord = t.loadRecord := by
  have hf : s.getFlag Key.provisioned = t.getFlag Key.provisioned := by
    rw [getFlag_eq_of_get?, getFlag_eq_of_get?, h _ List.mem_cons_self]
  have ht : ∀ k ∈ Key.record, s.getText k = t.getText k := by
    intro k hk
    rw [getText_eq_of_get?, getText_eq_of_get?, h _ (List.mem_cons_of_mem _ hk)]
  simp only [loadRecord, isProvisioned, required, loadBearerToken, hf, ht Key.ssid (by decide),
    ht Key.password (by decide), ht Key.deviceId (by decide),
    ht Key.provisioningToken (by decide), ht Key.bearerToken (by decide)]

/-- Stores with the same flag are provisioned alike. -/
theorem isProvisioned_congr {s t : Store}
    (h : s.get? Key.provisioned = t.get? Key.provisioned) : s.isProvisioned = t.isProvisioned := by
  rw [isProvisioned, isProvisioned, getFlag_eq_of_get?, getFlag_eq_of_get?, h]

/-- Stores with the same certificates load the same certificates. -/
theorem loadCertificates_congr {s t : Store} (h : ∀ k ∈ Key.certificates, s.get? k = t.get? k) :
    s.loadCertificates = t.loadCertificates := by
  have ht : ∀ k ∈ Key.certificates, s.getText k = t.getText k := by
    intro k hk
    rw [getText_eq_of_get?, getText_eq_of_get?, h k hk]
  simp only [loadCertificates, ht Key.deviceCertificate (by decide),
    ht Key.authorityCertificate (by decide)]

/-- Stores with the same bearer token load the same bearer token. -/
theorem loadBearerToken_congr {s t : Store}
    (h : s.get? Key.bearerToken = t.get? Key.bearerToken) :
    s.loadBearerToken = t.loadBearerToken := by
  rw [loadBearerToken, loadBearerToken, getText_eq_of_get?, getText_eq_of_get?, h]

/-- A record is loaded from a store that holds its fields under a set flag. -/
theorem loadRecord_of_get? {s : Store} {r : DeviceRecord}
    (hflag : s.get? Key.provisioned = some (.bool true))
    (hssid : s.get? Key.ssid = some (.text r.ssid))
    (hpassword : s.get? Key.password = some (.text r.password))
    (hdevice : s.get? Key.deviceId = some (.text r.deviceId))
    (htoken : s.get? Key.provisioningToken = some (.text r.provisioningToken))
    (hbearer : s.get? Key.bearerToken = r.bearerToken.map .text) :
    s.loadRecord = .ok (some { r with provisioned := true }) := by
  have hb : s.getText Key.bearerToken = .ok r.bearerToken := by
    rw [getText_eq_of_get?, hbearer]
    cases r.bearerToken <;> rfl
  simp only [loadRecord, isProvisioned, required, loadBearerToken, hb, getFlag_eq_of_get?,
    getText_eq_of_get?, hflag, hssid, hpassword, hdevice, htoken]
  rfl

/-- A record that was loaded stands under a set flag. -/
theorem isProvisioned_of_loadRecord {s : Store} {r : DeviceRecord}
    (h : s.loadRecord = .ok (some r)) : s.isProvisioned = .ok true := by
  rw [loadRecord] at h
  cases hp : s.isProvisioned with
  | error e => simp [hp, bind, Except.bind] at h
  | ok b =>
      cases b with
      | true => rfl
      | false => simp [hp, bind, Except.bind, pure, Except.pure] at h

/-- Without a record there is no flag that can be read as set. -/
theorem isProvisioned_of_loadRecord_none {s : Store} (h : s.loadRecord = .ok none) :
    s.isProvisioned ≠ .ok true := by
  intro hset
  simp only [loadRecord, hset, bind, Except.bind, if_true, pure, Except.pure] at h
  -- under a set flag a field that cannot be read fails, and otherwise there is a record
  repeat' split at h
  all_goals simp at h

/-- A flag that is unset leaves no record to load. -/
theorem loadRecord_of_unset {s : Store} (h : s.isProvisioned = .ok false) :
    s.loadRecord = .ok none := by
  rw [loadRecord, h]
  rfl

/-- Saving a record sets its fields and the flag, and erases a bearer token that the record does not
have. -/
theorem get?_saveRecord {s t : Store} {r : DeviceRecord} (h : s.saveRecord r = (t, .ok ())) :
    t.get? Key.provisioned = some (.bool true) ∧ t.get? Key.ssid = some (.text r.ssid) ∧
      t.get? Key.password = some (.text r.password) ∧
      t.get? Key.deviceId = some (.text r.deviceId) ∧
      t.get? Key.provisioningToken = some (.text r.provisioningToken) ∧
      t.get? Key.bearerToken = r.bearerToken.map .text := by
  simp only [get?_perform h, saveWrites, Write.leavesAll, List.foldl_cons, List.foldl_nil]
  cases r.bearerToken <;>
    simp [Write.leaves, Write.key, Write.value?, Key.provisioned, Key.ssid, Key.password,
      Key.deviceId, Key.provisioningToken, Key.bearerToken]

/-- **A saved record is the one that is loaded**, whatever the store held before. -/
theorem loadRecord_saveRecord {s t : Store} {r : DeviceRecord}
    (h : s.saveRecord r = (t, .ok ())) :
    t.loadRecord = .ok (some { r with provisioned := true }) := by
  obtain ⟨hflag, hssid, hpassword, hdevice, htoken, hbearer⟩ := get?_saveRecord h
  exact loadRecord_of_get? hflag hssid hpassword hdevice htoken hbearer

/-- Without a flag a store has no record. -/
theorem isProvisioned_of_get? {s : Store} (h : s.get? Key.provisioned = none) :
    s.isProvisioned = .ok false := by
  rw [isProvisioned, getFlag_eq_of_get?, h]
  rfl

/-- Clearing the record erases its flag and its fields, and leaves every other key as it was. -/
theorem get?_clearRecord {s t : Store} (h : s.clearRecord = (t, .ok ())) (k : String) :
    t.get? k = if k ∈ Key.provisioned :: Key.record then none else s.get? k := by
  rw [get?_perform h]
  exact Write.leavesAll_erase (Key.provisioned :: Key.record) k _

/-- A cleared record leaves no flag. -/
theorem isProvisioned_clearRecord {s t : Store} (h : s.clearRecord = (t, .ok ())) :
    t.isProvisioned = .ok false := by
  apply isProvisioned_of_get?
  rw [get?_clearRecord h, if_pos List.mem_cons_self]

/-- Saved certificates leave every other key as it was. -/
theorem get?_saveCertificates {s t : Store} {c : Certificates}
    (h : s.saveCertificates c = (t, .ok ())) {k : String} (hk : k ∉ Key.certificates) :
    t.get? k = s.get? k :=
  get?_perform_of_not_mem h hk

/-- Saved certificates leave the flag and the fields of the record as they were. -/
theorem get?_record_saveCertificates {s t : Store} {c : Certificates}
    (h : s.saveCertificates c = (t, .ok ())) {k : String} (hk : k ∈ Key.provisioned :: Key.record) :
    t.get? k = s.get? k := by
  have hdisjoint : ∀ k ∈ Key.provisioned :: Key.record, k ∉ Key.certificates := by decide
  exact get?_saveCertificates h (hdisjoint k hk)

end Store

end Onboarding
