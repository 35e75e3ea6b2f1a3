import Onboarding.Proofs.Settings.Admission

/-!
# Settings keep their secrets

The password of the access point, the signing request and the private key are secrets. Two look-ups
that differ in nothing else, and whose passwords are either both allowed or both not, are read alike
(`Settings.SameButSecrets`): each setting has the same fault in both or in neither, because the
password is the only secret that can have a fault and its fault shows one fixed word. So the first
fault, and with it the text that is displayed, says nothing about a secret. Where there is no fault,
no other setting depends on a secret.

## Main results

* `Settings.SameButSecrets.fault?_eq`: each setting has the same fault in both look-ups.
* `Settings.load_discreet`: the same error, or settings that differ only in the secrets.
-/

namespace Onboarding

/-- The settings that nobody is shown. -/
def Setting.isSecret : Setting → Bool
  | apPassword | csrPem | keyPem => true
  | _ => false

namespace Settings

/-- The settings with nothing in the place of the secrets. -/
def withoutSecrets (c : Settings) : Settings :=
  { c with
    accessPoint := { c.accessPoint with password := "" }
    csrPem := none
    keyPem := none }

/-- Two look-ups that differ in secrets only. The password is one that may be set in both or in
neither; where none is set, there is none that may not be. -/
structure SameButSecrets (look other : Lookup) : Prop where
  eq_of_not_secret : ∀ s, s.isSecret = false → look s = other s
  password_admits : look.Admits .apPassword ↔ other.Admits .apPassword

/-- A look-up without the secrets. -/
def blanked (look : Lookup) : Lookup :=
  fun s => if s.isSecret then none else look s

/-- No setting that is shown depends on a secret. -/
theorem withoutSecrets_assembled (look : Lookup) :
    (assembled look).withoutSecrets = (assembled (blanked look)).withoutSecrets :=
  rfl

/-- The fault of a setting depends on its own value only. -/
theorem fault?_congr {look other : Lookup} {s : Setting} (h : look s = other s) :
    fault? look s = fault? other s := by
  cases s <;> simp only [fault?, refusal, h]

/-- The fault of a password does not show it. -/
theorem eq_of_password_fault {look : Lookup} {e : SettingError}
    (h : fault? look .apPassword = some e) : e = ⟨.apPassword, redacted⟩ := by
  obtain ⟨v, -, hv⟩ := Option.bind_eq_some_iff.mp h
  split at hv
  · simp at hv
  · rename_i shown hparse
    obtain rfl := Option.some.inj hv
    rw [parsePassword] at hparse
    split at hparse
    · rw [Except.error.inj hparse]
    · simp at hparse

namespace SameButSecrets

variable {look other : Lookup}

theorem blanked_eq (h : SameButSecrets look other) : blanked look = blanked other := by
  funext s
  rw [blanked, blanked]
  split
  · rfl
  · rename_i hs
    exact h.eq_of_not_secret s (by simpa using hs)

/-- The password has the same fault in both, or in neither. -/
theorem password_fault_eq (h : SameButSecrets look other) :
    fault? look .apPassword = fault? other .apPassword := by
  have hnone : fault? look .apPassword = none ↔ fault? other .apPassword = none := by
    rw [fault?_eq_none_iff, fault?_eq_none_iff, h.password_admits]
  cases hlook : fault? look .apPassword with
  | none => exact (hnone.mp hlook).symm
  | some e =>
      cases hother : fault? other .apPassword with
      | none =>
          rw [hnone.mpr hother] at hlook
          simp at hlook
      | some f => rw [eq_of_password_fault hlook, eq_of_password_fault hother]

/-- **Each setting has the same fault in both**, or in neither. -/
theorem fault?_eq (h : SameButSecrets look other) (s : Setting) :
    fault? look s = fault? other s := by
  cases hs : s.isSecret with
  | false => exact fault?_congr (h.eq_of_not_secret s hs)
  | true =>
      cases s with
      | apPassword => exact h.password_fault_eq
      | csrPem | keyPem => rfl
      | _ => simp [Setting.isSecret] at hs

theorem firstFault?_eq (h : SameButSecrets look other) :
    firstFault? look = firstFault? other := by
  rw [firstFault?, firstFault?, funext h.fault?_eq]

/-- What is assembled differs in the secrets only. -/
theorem assembled_eq (h : SameButSecrets look other) :
    (assembled look).withoutSecrets = (assembled other).withoutSecrets :=
  calc (assembled look).withoutSecrets
      = (assembled (blanked look)).withoutSecrets := withoutSecrets_assembled look
    _ = (assembled (blanked other)).withoutSecrets := by rw [h.blanked_eq]
    _ = (assembled other).withoutSecrets := (withoutSecrets_assembled other).symm

end SameButSecrets

/-- **The same error, or settings that differ only in the secrets.** -/
theorem load_discreet {look other : Lookup} (h : SameButSecrets look other) :
    (∃ e, load look = .error e ∧ load other = .error e) ∨
      ∃ c d, load look = .ok c ∧ load other = .ok d ∧ c.withoutSecrets = d.withoutSecrets := by
  rw [load_eq look, load_eq other, ← h.firstFault?_eq]
  cases firstFault? look with
  | some e => exact .inl ⟨e, rfl, rfl⟩
  | none => exact .inr ⟨_, _, rfl, rfl, h.assembled_eq⟩

/-- Two passwords that are too short, before a channel that does not exist. -/
theorem load_discreet_of_short_passwords :
    ∃ look other : Lookup, look .apPassword = some "short" ∧ other .apPassword = some "tiny" ∧
      look .apChannel = some "14" ∧ SameButSecrets look other ∧
      ∃ e, load look = .error e ∧ load other = .error e ∧
        e.message = "invalid value for PROVISIONER_AP_PASSWORD: \"<redacted>\"" := by
  let secret (password key : String) : Lookup := fun s =>
    match s with
    | .apPassword => some password
    | .apChannel => some "14"
    | .keyPem => some key
    | _ => none
  have hrefused : ∀ password key, ¬Setting.apPassword.Allows password →
      ¬(secret password key).Admits .apPassword :=
    fun password key hnot hadmits => hnot (hadmits password rfl)
  have hsame : SameButSecrets (secret "short" "KEY A") (secret "tiny" "KEY B") := by
    refine ⟨fun s hs => by cases s <;> simp_all [Setting.isSecret, secret], ?_⟩
    have hshort : ¬Setting.apPassword.Allows "short" := by
      rw [Setting.Allows]
      decide
    have htiny : ¬Setting.apPassword.Allows "tiny" := by
      rw [Setting.Allows]
      decide
    exact iff_of_false (hrefused _ _ hshort) (hrefused _ _ htiny)
  have hload : load (secret "short" "KEY A") = .error ⟨.apPassword, redacted⟩ := by rfl
  refine ⟨_, _, rfl, rfl, rfl, hsame, ?_⟩
  rcases load_discreet hsame with ⟨e, hlook, hother⟩ | ⟨c, -, hlook, -⟩
  · obtain rfl := Except.error.inj (hlook.symm.trans hload)
    exact ⟨_, hlook, hother, by decide +kernel⟩
  · simp [hlook] at hload

end Settings

end Onboarding
