import Onboarding.Proofs.Store.Backends

/-!
# What a call does and what it leaves alone

A call is about certain keys. What stands under any other key stays as it is, on either backend,
whatever it is; and what the call is for has happened when it succeeds, whatever stood under its own
keys before, values of another type included.

## Main results

* `Store.sameBut_call`: a call that succeeds changes nothing but its own keys.
* `Store.loadCertificates_saveCertificates`: saved certificates are the ones that are loaded.
* `Store.get?_eraseAll`: erasing everything erases all keys of a device, and no others.
* `Store.calls_take_effect`: what each of the four operations on records and certificates does.
-/

namespace Onboarding

/-- The keys that a call is about. -/
def StoreCall.keys : StoreCall → List String
  | change w => [w.key]
  | commit => []
  | saveRecord _ | clearRecord => Key.provisioned :: Key.record
  | saveCertificates _ => Key.certificates
  | eraseAll => Key.all

namespace Store

variable {s t u : Store}

/-- The same stands under every key but the given ones. -/
def SameBut (keys : List String) (s t : Store) : Prop :=
  ∀ k, k ∉ keys → t.get? k = s.get? k

namespace SameBut

variable {keys others : List String}

theorem mono (h : SameBut keys s t) (hsub : keys ⊆ others) : SameBut others s t :=
  fun k hk => h k fun hmem => hk (hsub hmem)

theorem trans (h : SameBut keys s t) (h' : SameBut others t u) : SameBut (keys ++ others) s u := by
  intro k hk
  obtain ⟨hkeys, hothers⟩ := not_or.mp fun hmem => hk (List.mem_append.mpr hmem)
  rw [h' k hothers, h k hkeys]

/-- What is stored about certificates is no part of the record. -/
theorem loadCertificates_eq (h : SameBut (Key.provisioned :: Key.record) s t) :
    t.loadCertificates = s.loadCertificates := by
  have hdisjoint : ∀ k ∈ Key.certificates, k ∉ Key.provisioned :: Key.record := by decide
  exact loadCertificates_congr fun k hk => h k (hdisjoint k hk)

/-- The record is no part of what is stored about certificates. -/
theorem loadRecord_eq (h : SameBut Key.certificates s t) : t.loadRecord = s.loadRecord := by
  have hdisjoint : ∀ k ∈ Key.provisioned :: Key.record, k ∉ Key.certificates := by decide
  exact loadRecord_congr fun k hk => h k (hdisjoint k hk)

end SameBut

/-! ### Other keys -/

/-- An operation that succeeds changes nothing but the keys of its changes. -/
theorem sameBut_perform {ws : List Write} (h : s.perform ws = (t, .ok ())) :
    SameBut (ws.map Write.key) s t :=
  fun _ hk => get?_perform_of_not_mem h hk

/-- **A call that succeeds changes nothing but its own keys.** -/
theorem sameBut_call {c : StoreCall} (h : c.perform s = (t, .ok ())) : SameBut c.keys s t := by
  cases c with
  | change w =>
      intro k hk
      rw [get?_apply h, Write.leaves, if_neg fun hkey => hk (List.mem_singleton.mpr hkey.symm)]
  | commit => exact fun k _ => get?_commit h k
  | saveRecord r =>
      have hkeys : Key.record ++ [Key.provisioned] ⊆ Key.provisioned :: Key.record := by decide
      exact (sameBut_perform h).mono (keys_saveWrites r ▸ hkeys)
  | clearRecord => exact sameBut_perform h
  | saveCertificates certificates => exact sameBut_perform h
  | eraseAll =>
      obtain ⟨u, hclear, hrest⟩ := eraseAll_eq_ok h
      exact ((sameBut_perform hclear).trans (sameBut_perform hrest)).mono (by decide)

/-! ### Own keys -/

/-- **Saved certificates are the ones that are loaded**, whatever the store held before. -/
theorem loadCertificates_saveCertificates {c : Certificates}
    (h : s.saveCertificates c = (t, .ok ())) : t.loadCertificates = .ok (some c) := by
  have hdevice : t.get? Key.deviceCertificate = some (.text c.device) := get?_perform h _
  have hauthority : t.get? Key.authorityCertificate = some (.text c.authority) := get?_perform h _
  rw [loadCertificates, getText_eq_of_get?, getText_eq_of_get?, hdevice, hauthority]
  rfl

/-- **Erasing everything** erases all keys of a device, and no others. -/
theorem get?_eraseAll (h : s.eraseAll = (t, .ok ())) (k : String) :
    t.get? k = if k ∈ Key.all then none else s.get? k := by
  obtain ⟨u, hclear, hrest⟩ := eraseAll_eq_ok h
  have hall : k ∈ Key.all ↔ k ∈ Key.certificates ∨ k ∈ Key.provisioned :: Key.record := by
    grind [Key.all]
  rw [get?_perform hrest, Write.leavesAll_erase, get?_clearRecord hclear]
  by_cases hcertificates : k ∈ Key.certificates
  · rw [if_pos hcertificates, if_pos (hall.mpr (.inl hcertificates))]
  · simp only [hall, hcertificates, false_or, if_false]

/-- **What the operations on records and certificates do**, whatever the store held, where they
succeed. A saved record is loaded as it is, and counts as provisioned; saved certificates are loaded
as they are; a cleared record leaves nothing under its fields and its flag; erasing everything
leaves nothing under the certificates either. All else stays as it was. -/
theorem calls_take_effect (s t : Store) :
    (∀ r, s.saveRecord r = (t, .ok ()) →
      t.loadRecord = .ok (some { r with provisioned := true }) ∧
        t.loadCertificates = s.loadCertificates ∧ SameBut (Key.provisioned :: Key.record) s t) ∧
    (∀ c, s.saveCertificates c = (t, .ok ()) →
      t.loadCertificates = .ok (some c) ∧
        t.loadRecord = s.loadRecord ∧ SameBut Key.certificates s t) ∧
    (s.clearRecord = (t, .ok ()) →
      (∀ k ∈ Key.provisioned :: Key.record, t.get? k = none) ∧
        t.loadCertificates = s.loadCertificates ∧ SameBut (Key.provisioned :: Key.record) s t) ∧
    (s.eraseAll = (t, .ok ()) →
      (∀ k ∈ Key.all, t.get? k = none) ∧ SameBut Key.all s t) := by
  refine ⟨fun r h => ?_, fun c h => ?_, fun h => ?_, fun h => ?_⟩
  · have hsame : SameBut (Key.provisioned :: Key.record) s t := sameBut_call (c := .saveRecord r) h
    exact ⟨loadRecord_saveRecord h, hsame.loadCertificates_eq, hsame⟩
  · have hsame : SameBut Key.certificates s t := sameBut_call (c := .saveCertificates c) h
    exact ⟨loadCertificates_saveCertificates h, hsame.loadRecord_eq, hsame⟩
  · have hsame : SameBut (Key.provisioned :: Key.record) s t := sameBut_call (c := .clearRecord) h
    exact ⟨fun k hk => by rw [get?_clearRecord h, if_pos hk], hsame.loadCertificates_eq, hsame⟩
  · have hsame : SameBut Key.all s t := sameBut_call (c := .eraseAll) h
    exact ⟨fun k hk => by rw [get?_eraseAll h, if_pos hk], hsame⟩

/-- In the memory the flag is a text, the name a flag, and a token is left over; in the file no
value under a key of a record or a certificate is a text. -/
theorem calls_take_effect_of_mistyped :
    let held : Table StoredValue := .ofList
      [(Key.ssid, .flag true), (Key.provisioned, .text "yes"), (Key.bearerToken, .text "stale"),
        (Key.deviceCertificate, .text "PC"), (Key.authorityCertificate, .text "PA"),
        ("colour", .flag false)]
    let filed : Table Json := .ofList
      [(Key.ssid, .null), (Key.provisioned, .array []), (Key.deviceCertificate, .bool true),
        (Key.authorityCertificate, .null), ("colour", .array [.null])]
    let m : Store := .memory { values := held }
    let f : Store := .file { place := .absent, values := filed, committed := .empty }
    let r : DeviceRecord :=
      { ssid := "net", password := "", deviceId := "dev", provisioningToken := "tok",
        bearerToken := none }
    m.loadRecord = .error (.notFlag Key.provisioned) ∧
      (m.saveRecord r).1.loadRecord = .ok (some { r with provisioned := true }) ∧
      (m.saveRecord r).1.loadCertificates = .ok (some ⟨"PC", "PA"⟩) ∧
      (m.saveRecord r).1.get? "colour" = some (.bool false) ∧
      f.loadCertificates = .error (.notText Key.deviceCertificate) ∧
      (f.saveCertificates ⟨"PC", "PA"⟩).1.loadCertificates = .ok (some ⟨"PC", "PA"⟩) ∧
      (f.saveCertificates ⟨"PC", "PA"⟩).1.get? Key.ssid = some .null ∧
      (f.clearRecord).1.get? Key.ssid = none ∧
      (f.clearRecord).1.get? Key.deviceCertificate = some (.bool true) ∧
      (f.eraseAll).1.get? Key.deviceCertificate = none ∧
      (f.eraseAll).1.get? "colour" = some (.array [.null]) := by
  intro held filed m f r
  have hspared (n : Nat) : Faults.never.Spares n := by
    induction n with
    | zero => trivial
    | succ n ih => exact ⟨rfl, ih⟩
  have hm (c : StoreCall) : c.perform m = ((c.perform m).1, .ok ()) := by
    have h : m.Spared (c.commitCount + 0) := rfl
    exact Prod.ext rfl h.call.1
  have hf (c : StoreCall) : c.perform f = ((c.perform f).1, .ok ()) := by
    have h : f.Spared (c.commitCount + 0) := ⟨hspared _, trivial⟩
    exact Prod.ext rfl h.call.1
  obtain ⟨hload, hcertificates, hother⟩ := (calls_take_effect m _).1 r (hm (.saveRecord r))
  obtain ⟨hsaved, -, hsavedOther⟩ :=
    (calls_take_effect f _).2.1 ⟨"PC", "PA"⟩ (hf (.saveCertificates ⟨"PC", "PA"⟩))
  obtain ⟨hcleared, -, hclearedOther⟩ := (calls_take_effect f _).2.2.1 (hf .clearRecord)
  obtain ⟨herased, herasedOther⟩ := (calls_take_effect f _).2.2.2 (hf .eraseAll)
  refine ⟨by decide +kernel, hload, ?_, ?_, by decide +kernel, hsaved, ?_, ?_, ?_, ?_, ?_⟩
  · exact hcertificates.trans (by decide +kernel)
  · exact (hother "colour" (by decide +kernel)).trans rfl
  · exact (hsavedOther Key.ssid (by decide)).trans rfl
  · exact hcleared Key.ssid (by decide)
  · exact (hclearedOther Key.deviceCertificate (by decide)).trans rfl
  · exact herased Key.deviceCertificate (by decide)
  · exact (herasedOther "colour" (by decide +kernel)).trans rfl

end Store

end Onboarding
