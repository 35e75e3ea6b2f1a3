import Mathlib.Data.List.Sort
import Onboarding.Portal.Request
import Onboarding.Proofs.Json.Documents
import Onboarding.Proofs.Json.Members

/-!
# What a body submits

A body is a JSON text or none; an object among these gives a field the value of its last member with
the name of the field, and supplies it if that value is a text. `ProvisionRequest.parse` says which
of the three it is: no JSON text, a submission with the four texts that are supplied, or the fields
that are not supplied. What the text is like otherwise, the order of its members, other members,
blanks and escapes, is all the same to it.

## Main results

* `ProvisionRequest.supplies_iff`: the text of a field is the one that the body supplies.
* `ProvisionRequest.parse_classifies`: what comes of any body.
-/

namespace Onboarding

/-! ### Fields -/

namespace RequiredField

/-- Fields that are reported in their order are known by which they are. -/
theorem eq_of_sublist {fs gs : List RequiredField} (hf : fs.Sublist all) (hg : gs.Sublist all)
    (h : ∀ f, f ∈ fs ↔ f ∈ gs) : fs = gs := by
  let before (f g : RequiredField) : Prop := f.ctorIdx < g.ctorIdx
  have : Std.Irrefl before := ⟨fun f => Nat.lt_irrefl f.ctorIdx⟩
  have : Std.Antisymm before := ⟨fun f g hfg hgf => absurd hfg (Nat.lt_asymm hgf)⟩
  have hall : all.Pairwise before := by decide
  exact (hall.sublist hf).eq_of_mem_iff (hall.sublist hg) h

theorem mem_all (f : RequiredField) : f ∈ all := by
  cases f <;> decide

end RequiredField

namespace ProvisionRequest

/-- The text of a field of a submission. -/
def get (q : ProvisionRequest) : RequiredField → String
  | .ssid => q.ssid
  | .password => q.password
  | .deviceId => q.deviceId
  | .provisioningToken => q.provisioningToken

/-- A body supplies the text of a field: it is a text of an object, and its last member with the
name of the field has that text. -/
def Supplies (body : Bytes) (f : RequiredField) (s : String) : Prop :=
  ∃ members, Json.SpellsObject (Json.maxDepth - 1) body members ∧
    Json.Member.last? f.name members = some (.text s)

/-- **The text of a field** is the one that the body supplies. -/
theorem supplies_iff (body : Bytes) (f : RequiredField) (s : String) :
    Supplies body f s ↔ ∃ v, Json.parse? body = some v ∧ field? v f = some s := by
  have htext (v : Json) : v.text? = some s ↔ v = .text s := by
    cases v <;> simp [Json.text?]
  constructor
  · rintro ⟨members, hmembers, hlast⟩
    refine ⟨_, Json.parse?_eq_some_iff.mpr hmembers.spells, ?_⟩
    rw [field?, Json.get?_ofMembers, hlast]
    rfl
  · rintro ⟨v, hparse, hfield⟩
    obtain ⟨w, hget, hw⟩ := Option.bind_eq_some_iff.mp hfield
    rw [htext] at hw
    subst hw
    have hspells : Json.Spells (Json.maxDepth - 1 + 1) body v := Json.parse?_eq_some_iff.mp hparse
    rcases hspells.object_cases with ⟨members, hmembers, rfl⟩ | hother
    · exact ⟨members, hmembers, by rw [← Json.get?_ofMembers, hget]⟩
    · cases v with
      | object entries => exact absurd rfl (hother entries)
      | null | bool | number | text | array => simp [Json.get?] at hget

/-- A value is a submission exactly if it has the text of every field. -/
theorem ofJson_eq_ok_iff {v : Json} {q : ProvisionRequest} :
    ofJson v = .ok q ↔ ∀ f, field? v f = some (q.get f) := by
  constructor
  · intro h
    rw [ofJson] at h
    split at h
    · rename_i hssid hpassword hdevice htoken
      obtain rfl := Except.ok.inj h
      intro f
      cases f <;> assumption
    · simp at h
  · intro h
    have hssid := h .ssid
    have hpassword := h .password
    have hdevice := h .deviceId
    have htoken := h .provisioningToken
    simp only [get] at hssid hpassword hdevice htoken
    simp [ofJson, hssid, hpassword, hdevice, htoken]

theorem mem_missing {v : Json} {f : RequiredField} : f ∈ missing v ↔ field? v f = none := by
  simp [missing, RequiredField.mem_all]

/-- No field is missing exactly if the value is a submission. -/
theorem missing_eq_nil_iff {v : Json} :
    missing v = [] ↔ ∃ q : ProvisionRequest, ofJson v = .ok q := by
  constructor
  · intro h
    have hsome (f : RequiredField) : ∃ s, field? v f = some s := by
      refine Option.ne_none_iff_exists'.mp fun hf => ?_
      simpa [h] using mem_missing.mpr hf
    obtain ⟨ssid, hssid⟩ := hsome .ssid
    obtain ⟨password, hpassword⟩ := hsome .password
    obtain ⟨device, hdevice⟩ := hsome .deviceId
    obtain ⟨token, htoken⟩ := hsome .provisioningToken
    refine ⟨⟨ssid, password, device, token⟩, ofJson_eq_ok_iff.mpr fun f => ?_⟩
    cases f <;> assumption
  · rintro ⟨q, hq⟩
    refine List.eq_nil_iff_forall_not_mem.mpr fun f hf => ?_
    have hnone := mem_missing.mp hf
    rw [ofJson_eq_ok_iff.mp hq f] at hnone
    simp at hnone

/-- The two checks agree: a value that is no submission is refused with the fields that it misses,
and there are some. -/
theorem ofJson_eq_missing_iff {v : Json} {fs : List RequiredField} :
    ofJson v = .error (.missingFields fs) ↔ fs = missing v ∧ fs ≠ [] := by
  have hcases : (∃ q, ofJson v = .ok q) ∨ ofJson v = .error (.missingFields (missing v)) := by
    rw [ofJson]
    split
    · exact .inl ⟨_, rfl⟩
    · exact .inr rfl
  rw [← missing_eq_nil_iff] at hcases
  constructor
  · intro h
    rcases hcases with hnil | hrefused
    · obtain ⟨q, hq⟩ := missing_eq_nil_iff.mp hnil
      simp [hq] at h
    · obtain rfl : missing v = fs := by simpa [hrefused] using h
      refine ⟨rfl, fun hnil => ?_⟩
      obtain ⟨q, hq⟩ := missing_eq_nil_iff.mp hnil
      simp [hq] at hrefused
  · rintro ⟨rfl, hne⟩
    exact hcases.resolve_left hne

/-! ### Bodies -/

theorem parse_of_parse? {body : Bytes} {v : Json} (h : Json.parse? body = some v) :
    parse body = ofJson v := by
  rw [parse, h]

/-- **A body is a submission** exactly if it supplies the text of every field. -/
theorem parse_eq_ok_iff (body : Bytes) (q : ProvisionRequest) :
    parse body = .ok q ↔ ∀ f, Supplies body f (q.get f) := by
  simp only [supplies_iff]
  cases hparse : Json.parse? body with
  | none => simpa [parse, hparse] using ⟨RequiredField.ssid⟩
  | some v => simp [parse_of_parse? hparse, ofJson_eq_ok_iff]

/-- **A body is refused with missing fields** exactly if it is a JSON text and these are the ones
that it does not supply. -/
theorem parse_eq_missing_iff (body : Bytes) (fs : List RequiredField) :
    parse body = .error (.missingFields fs) ↔
      (∃ v, Json.parse? body = some v) ∧ fs ≠ [] ∧ fs.Sublist RequiredField.all ∧
        ∀ f, f ∈ fs ↔ ¬∃ s, Supplies body f s := by
  simp only [supplies_iff]
  cases hparse : Json.parse? body with
  | none => simp [parse, hparse]
  | some v =>
      have hmissing (f : RequiredField) : f ∈ missing v ↔
          ¬∃ s, ∃ u, some v = some u ∧ field? u f = some s := by
        simp [mem_missing, Option.eq_none_iff_forall_ne_some]
      rw [parse_of_parse? hparse, ofJson_eq_missing_iff]
      constructor
      · rintro ⟨rfl, hne⟩
        exact ⟨⟨v, rfl⟩, hne, List.filter_sublist, hmissing⟩
      · rintro ⟨-, hne, hsublist, hmem⟩
        refine ⟨RequiredField.eq_of_sublist hsublist List.filter_sublist fun f => ?_, hne⟩
        rw [hmem, hmissing]

/-- **What comes of a body.** It is refused as no JSON text exactly if it is none; it is a
submission exactly if it supplies the texts of this submission; and it is refused with missing
fields exactly if it is a JSON text and these are the fields that it does not supply, in their
order, with at least one among them. So any text of an object whose last members with the names of
the fields are four texts is read as these, whatever else it has. -/
theorem parse_classifies (body : Bytes) :
    (parse body = .error .invalidJson ↔ ¬∃ v, Json.Spells Json.maxDepth body v) ∧
    (∀ q, parse body = .ok q ↔ ∀ f, Supplies body f (q.get f)) ∧
    (∀ fs, parse body = .error (.missingFields fs) ↔
      (∃ v, Json.Spells Json.maxDepth body v) ∧ fs ≠ [] ∧ fs.Sublist RequiredField.all ∧
        ∀ f, f ∈ fs ↔ ¬∃ s, Supplies body f s) ∧
    ∀ members (q : ProvisionRequest), Json.SpellsObject (Json.maxDepth - 1) body members →
      (∀ f, Json.Member.last? f.name members = some (.text (q.get f))) → parse body = .ok q := by
  simp only [← Json.parse?_eq_some_iff]
  refine ⟨?_, parse_eq_ok_iff body, parse_eq_missing_iff body, fun members q hmembers hlast => ?_⟩
  · rw [parse_eq_invalidJson_iff, Option.eq_none_iff_forall_ne_some, not_exists]
  · exact (parse_eq_ok_iff body q).mpr fun f => ⟨members, hmembers, hlast f⟩

/-- A body with escapes, a pair of surrogates, a nested object and a name that comes twice supplies
the four texts; of a name that comes twice, a number behind a text leaves the field out. -/
theorem parse_classifies_of_escapes :
    (∀ f, Supplies (Utf8.encode ("\x7b \"note\": [1, \x7b\"ssid\": \"x\"\x7d], \"ssid\": \"old\"," ++
      "\"password\": \"p\\u00e9\\n\", \"device_id\": \"\\ud83d\\ude00\"," ++
      "\"provisioning_token\": \"t\", \"ssid\" : \"caf\\u00e9\" \x7d")) f
      (get ⟨"café", "pé\n", "😀", "t"⟩ f)) ∧
    ∀ f, f ∈ [.ssid, .deviceId, .provisioningToken] ↔ ¬∃ s, Supplies
      (Utf8.encode "\x7b\"password\": \"p\", \"ssid\": \"x\", \"ssid\": 7\x7d") f s :=
  ⟨((parse_classifies _).2.1 _).mp (by decide +kernel),
    (((parse_classifies _).2.2.1 _).mp (by decide +kernel)).2.2.2⟩

end ProvisionRequest

end Onboarding
