import Onboarding.Credential
import Onboarding.Store.File
import Onboarding.Store.Memory

/-!
# Records in a store

A store is kept in memory or in a file. On either, a device record is saved field by field with its
flag last and cleared with the flag first, so that a save or a clear that is cut off in the middle
never leaves a flag over fields that do not belong together.

## Main statements

* `getText_eq_of_get?`, `getFlag_eq_of_get?`: what is read depends on the look-up alone.
-/

namespace Onboarding

/-- A store of either kind. -/
inductive Store where
  | memory (store : MemoryStore)
  | file (store : FileStore)

namespace Store

/-- What stands under a key, of whatever type. -/
def get? (key : String) : Store → Option Json
  | memory s =>
    (s.values.get? key).map fun
      | .text t => .text t
      | .flag b => .bool b
  | file s => s.values.get? key

/-- The bytes of the file that a store is kept in, if there are any. -/
def fileBytes : Store → Option Bytes
  | file { place := .file content, .. } => some content
  | _ => none

/-- The text under a key. -/
def getText (key : String) : Store → Except StoreError (Option String)
  | memory s => s.getText key
  | file s => s.getText key

/-- The flag under a key. -/
def getFlag (key : String) : Store → Except StoreError (Option Bool)
  | memory s => s.getFlag key
  | file s => s.getFlag key

/-- Makes one change. -/
def apply (w : Write) : Store → Store × Except StoreError Unit
  | memory s => let (s, r) := s.apply w; (memory s, r)
  | file s => (file (s.change w), .ok ())

/-- Makes the changes so far lasting. -/
def commit : Store → Store × Except StoreError Unit
  | memory s => let (s, r) := s.commit; (memory s, r)
  | file s => let (s, r) := s.commit; (file s, r)

/-- Makes changes one after the other and stops at the first that fails. -/
def applyAll : List Write → Store → Store × Except StoreError Unit
  | [], s => (s, .ok ())
  | w :: ws, s =>
    match s.apply w with
    | (s, .ok ()) => applyAll ws s
    | (s, .error e) => (s, .error e)

/-- Makes changes and commits them. -/
def perform (ws : List Write) (s : Store) : Store × Except StoreError Unit :=
  match s.applyAll ws with
  | (s, .ok ()) => s.commit
  | (s, .error e) => (s, .error e)

/-- The changes that save a record: its fields, then the flag. A record without a bearer token
erases the one that may be there. -/
def saveWrites (r : DeviceRecord) : List Write :=
  [.setText Key.ssid r.ssid, .setText Key.password r.password, .setText Key.deviceId r.deviceId,
    .setText Key.provisioningToken r.provisioningToken,
    match r.bearerToken with
    | some t => .setText Key.bearerToken t
    | none => .erase Key.bearerToken,
    .setFlag Key.provisioned true]

/-- The changes that clear a record: the flag, then its fields. -/
def clearWrites : List Write :=
  .erase Key.provisioned :: Key.record.map .erase

/-- The changes that save certificates. -/
def certificateWrites (c : Certificates) : List Write :=
  [.setText Key.deviceCertificate c.device, .setText Key.authorityCertificate c.authority]

/-- Whether a whole record is stored. -/
def isProvisioned (s : Store) : Except StoreError Bool :=
  (s.getFlag Key.provisioned).map (·.getD false)

/-- Saves a record. -/
def saveRecord (r : DeviceRecord) (s : Store) : Store × Except StoreError Unit :=
  s.perform (saveWrites r)

/-- A field that a record must have. -/
def required (key : String) (s : Store) : Except StoreError String :=
  match s.getText key with
  | .ok (some t) => .ok t
  | .ok none => .error (.incomplete key)
  | .error e => .error e

/-- The bearer token of the record. -/
def loadBearerToken (s : Store) : Except StoreError (Option String) :=
  s.getText Key.bearerToken

/-- The stored record, if the flag says that there is one. -/
def loadRecord (s : Store) : Except StoreError (Option DeviceRecord) := do
  if ← s.isProvisioned then
    let ssid ← s.required Key.ssid
    let password ← s.required Key.password
    let deviceId ← s.required Key.deviceId
    let provisioningToken ← s.required Key.provisioningToken
    let bearerToken ← s.loadBearerToken
    return some { ssid, password, deviceId, provisioningToken, bearerToken }
  else
    return none

/-- Erases the record and its flag. -/
def clearRecord (s : Store) : Store × Except StoreError Unit :=
  s.perform clearWrites

/-- Saves both certificates. -/
def saveCertificates (c : Certificates) (s : Store) : Store × Except StoreError Unit :=
  s.perform (certificateWrites c)

/-- Both certificates, or none if one is missing. -/
def loadCertificates (s : Store) : Except StoreError (Option Certificates) := do
  let device ← s.getText Key.deviceCertificate
  let authority ← s.getText Key.authorityCertificate
  match device, authority with
  | some device, some authority => return some { device, authority }
  | _, _ => return none

/-- Whether both certificates are there. -/
def hasCertificates (s : Store) : Except StoreError Bool :=
  s.loadCertificates.map (·.isSome)

/-- Clears the record, then the certificates. -/
def eraseAll (s : Store) : Store × Except StoreError Unit :=
  match s.clearRecord with
  | (s, .ok ()) => s.perform (Key.certificates.map .erase)
  | (s, .error e) => (s, .error e)

theorem getText_eq_of_get? (key : String) (s : Store) :
    s.getText key =
      match s.get? key with
      | some (.text t) => .ok (some t)
      | some _ => .error (.notText key)
      | none => .ok none := by
  cases s with
  | memory m =>
    simp only [getText, get?, MemoryStore.getText]
    rcases m.values.get? key with _ | v
    · rfl
    · cases v <;> rfl
  | file f => rfl

theorem getFlag_eq_of_get? (key : String) (s : Store) :
    s.getFlag key =
      match s.get? key with
      | some (.bool b) => .ok (some b)
      | some _ => .error (.notFlag key)
      | none => .ok none := by
  cases s with
  | memory m =>
    simp only [getFlag, get?, MemoryStore.getFlag]
    rcases m.values.get? key with _ | v
    · rfl
    · cases v <;> rfl
  | file f => rfl

end Store

end Onboarding
