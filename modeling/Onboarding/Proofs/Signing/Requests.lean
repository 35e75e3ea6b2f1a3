import Onboarding.Proofs.Json.Documents
import Onboarding.Proofs.Json.Objects
import Onboarding.Signing

/-!
# What a signing request says

A request is written as an object of three texts. Whatever these texts are, what stands between the
quotes of one of them spells it, so no text ends early or goes on as another member, and a reader of
the object finds the three members and no others.

## Main results

* `Json.spellsObject_compact`: an object of texts and flags that is written without blanks is a text
  of its members, one by one.
* `SignRequest.parse?_text`: a request is read back.
* `SignRequest.text_says`: what the text of a request is, and that it is of no other.
-/

namespace Onboarding

open Utf8 (bytes)

namespace Json

/-! ### Written objects -/

/-- A text or a flag is spelled by what is written for it. -/
theorem spells_compact {v : Json} (hv : v.IsPlain) (depth : Nat) :
    Spells depth (bytes (compact v)) v := by
  cases v with
  | text s =>
      rw [compact, JsonText.bytes_write]
      exact .text (JsonText.spells_body s)
  | bool b =>
      cases b with
      | true => exact .word (w := "true") (by simp [words])
      | false => exact .word (w := "false") (by simp [words])
  | null | number | array | object => exact hv.elim

/-- A name in quotes, as it is written. -/
theorem spellsName_write (k : String) : SpellsName (bytes (JsonText.write k)) k :=
  ⟨[], JsonText.body k, [], .nil, .nil, JsonText.bytes_write k, JsonText.spells_body k⟩

/-- A member as it is written without blanks. -/
def Member.written (e : String × Json) : Member where
  label := bytes (JsonText.write e.1)
  name := e.1
  text := bytes (compact e.2)
  value := e.2

theorem Member.spelling_written (e : String × Json) :
    (Member.written e).spelling = bytes (JsonText.write e.1 ++ ':' :: compact e.2) := by
  rw [Utf8.bytes_append]
  rfl

theorem bytes_joined (ts : List (List Char)) :
    bytes (joined [','] ts) = separated (ts.map bytes) := by
  induction ts with
  | nil => rfl
  | cons t ts ih =>
      cases ts with
      | nil => rw [List.map_singleton, separated_singleton, joined]
      | cons u ts =>
          rw [List.map_cons, List.map_cons, separated_cons_cons, ← List.map_cons, ← ih, joined,
            Utf8.bytes_append, Utf8.bytes_append, List.append_assoc]
          · rfl
          · simp

/-- **An object of texts and flags that is written without blanks** is a text of its members. -/
theorem spellsObject_compact {entries : List (String × Json)} (hne : entries ≠ [])
    (h : ∀ e ∈ entries, e.2.IsPlain) (depth : Nat) :
    SpellsObject depth (bytes (compact (.object entries))) (entries.map Member.written) := by
  have hmembers : (compactMembers entries).map bytes =
      (entries.map Member.written).map Member.spelling := by
    clear hne h
    induction entries with
    | nil => rfl
    | cons e entries ih =>
        rw [compactMembers, List.map_cons, ih, ← Member.spelling_written]
        rfl
  refine ⟨[], bytes (joined [','] (compactMembers entries)), [], .nil, .nil, ?_, ?_, ?_⟩
  · rw [compact, List.cons_append, List.nil_append, List.append_nil]
    change 0x7B :: bytes (_ ++ _) = _
    rw [Utf8.bytes_append]
    rfl
  · intro m hm
    obtain ⟨e, he, rfl⟩ := List.mem_map.mp hm
    exact ⟨spellsName_write e.1, spells_compact (h e he) depth⟩
  · rw [if_neg (by simpa using hne), bytes_joined, hmembers]

end Json

/-! ### Signing requests -/

namespace SignRequest

/-- The members of a request in the order in which they are sent. -/
def entries (r : SignRequest) : List (String × Json) :=
  [("device_id", .text r.deviceId), ("csr", .text r.csr),
    ("provisioning_token", .text r.provisioningToken)]

theorem spellsObject_text (r : SignRequest) (depth : Nat) :
    Json.SpellsObject depth (Utf8.encode r.text) (r.entries.map Json.Member.written) := by
  have hplain : ∀ e ∈ r.entries, e.2.IsPlain := by
    simp [entries, Json.IsPlain]
  rw [text, Utf8.encode_ofList]
  exact Json.spellsObject_compact (by simp [entries]) hplain depth

/-- The members as an object lists them, which is by name. -/
theorem ofMembers_entries (r : SignRequest) : Json.ofMembers r.entries =
    .object [("csr", .text r.csr), ("device_id", .text r.deviceId),
      ("provisioning_token", .text r.provisioningToken)] := by
  have hcsr : "csr" < "device_id" := by decide +kernel
  have htoken : ¬"provisioning_token" < "csr" ∧ ¬"provisioning_token" < "device_id" := by
    decide +kernel
  simp [Json.ofMembers, entries, Entries.ofList, Entries.insert, hcsr, htoken]

/-- **A request is read back** as an object with its three members, which a reader lists by name. -/
theorem parse?_text (r : SignRequest) : Json.parse? (Utf8.encode r.text) =
    some (.object [("csr", .text r.csr), ("device_id", .text r.deviceId),
      ("provisioning_token", .text r.provisioningToken)]) := by
  rw [← r.ofMembers_entries]
  exact Json.parse?_eq_some_iff.mpr (r.spellsObject_text (Json.maxDepth - 1)).spells

/-- **What the text of a request is**: an object whose members are the three, in this order and each
once; read back it is the same texts under these names, and it is the text of no other request. -/
theorem text_says (r : SignRequest) :
    (∃ members, Json.SpellsObject (Json.maxDepth - 1) (Utf8.encode r.text) members ∧
      members.map Json.Member.entry = [("device_id", .text r.deviceId), ("csr", .text r.csr),
        ("provisioning_token", .text r.provisioningToken)]) ∧
    Json.parse? (Utf8.encode r.text) =
      some (.object [("csr", .text r.csr), ("device_id", .text r.deviceId),
        ("provisioning_token", .text r.provisioningToken)]) ∧
    ∀ q : SignRequest, q.text = r.text ↔ q = r := by
  refine ⟨⟨_, r.spellsObject_text _, rfl⟩, r.parse?_text, fun q => ⟨fun h => ?_, congrArg text⟩⟩
  have hparse := q.parse?_text
  rw [h, r.parse?_text] at hparse
  obtain ⟨device, csr, token⟩ := q
  simp only [Option.some.injEq, Json.object.injEq, List.cons.injEq, Prod.mk.injEq, Json.text.injEq,
    true_and, and_true] at hparse
  obtain ⟨rfl, rfl, rfl⟩ := hparse
  rfl

end SignRequest

end Onboarding
