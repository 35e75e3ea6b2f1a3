import Onboarding.Boot
import Onboarding.Proofs.Json.Encoding
import Onboarding.Proofs.Json.Members
import Onboarding.Proofs.Store.Durable

/-!
# What a store file is opened as

A file is read as a text and then as a JSON text. An object that it spells is what the store holds,
under each name the value of its last member; a text that spells no object is thrown away, and the
store is empty. Bytes that are no text never get as far: there the store is not opened, and the
device does not come up.

An object may be nested as deep as the reader of JSON texts goes, and a text beyond that is one that
spells no object.

## Main results

* `FileStore.valuesOf_of_spellsObject`, `FileStore.valuesOf_of_other`: the values of a file.
* `FileStore.openAt_of_isText`, `FileStore.openAt_of_not_isText`: which files are opened.
* `FileStore.openAt_file_cases`: what comes of any file.
-/

namespace Onboarding

/-- A table holds the last value of every key that it was made of. -/
theorem Table.get?_ofList {α : Type} (l : List (String × α)) (k : String) :
    (Table.ofList l).get? k = Entries.get? k l.reverse :=
  Entries.get?_ofList k l

namespace FileStore

open Json (Member SpellsObject)
open Utf8 (IsText)

/-! ### The values of a file -/

/-- **An object that a file spells** is what is found in it, with the last member of each name. -/
theorem valuesOf_of_spellsObject {content : Bytes} {members : List Member}
    (h : SpellsObject (Json.maxDepth - 1) content members) (k : String) :
    (valuesOf content).get? k = Member.last? k members := by
  have hparse : Json.parse? content = some (Json.ofMembers (members.map Member.entry)) :=
    Json.parse?_eq_some_iff.mpr h.spells
  have hentered : valuesOf content = Table.ofList (members.map Member.entry) := by
    rw [valuesOf, hparse]
    exact (Table.ofList (members.map Member.entry)).ofList_entries
  rw [hentered, Table.get?_ofList, ← List.map_reverse, Json.get?_map_entry, Member.last?]

/-- **In a file that spells no object** nothing is found. -/
theorem valuesOf_of_other {content : Bytes}
    (h : ¬∃ members, SpellsObject (Json.maxDepth - 1) content members) :
    valuesOf content = .empty := by
  rw [valuesOf]
  split
  · rename_i entries hparse
    have hspells : Json.Spells (Json.maxDepth - 1 + 1) content (.object entries) :=
      Json.parse?_eq_some_iff.mp hparse
    rcases hspells.object_cases with ⟨members, hmembers, -⟩ | hother
    · exact absurd ⟨members, hmembers⟩ h
    · exact absurd rfl (hother entries)
  · rfl

/-! ### Opening -/

/-- A file that is a text is opened with what is found in it. -/
theorem openAt_of_isText {content : Bytes} (h : IsText content) :
    openAt (.file content) =
      .ok { place := .file content, values := valuesOf content,
            committed := valuesOf content } := by
  obtain ⟨text, hdecode⟩ := Utf8.isText_iff_decode.mp h
  have hread : (Place.file content).readText = .ok text := by
    rw [Place.readText, Place.read]
    simp only [hdecode]
  rw [openAt_of_readText hread, Utf8.encode_of_decode hdecode]

/-- A file that is no text is not opened. -/
theorem openAt_of_not_isText {content : Bytes} (h : ¬IsText content) :
    openAt (.file content) = .error (.host .notUtf8) := by
  have hread : (Place.file content).readText = .error .notUtf8 := by
    rw [Place.readText, Place.read]
    simp only [Utf8.decode_eq_none_iff.mpr h]
  rw [openAt, hread]
  rfl

/-- A device comes up with its store file exactly if the file is opened, whatever the settings. -/
theorem isOk_device (settings : Settings) (place : Place) (surroundings : Surroundings)
    (directory : CertificateDirectory) :
    (Boot.device settings place surroundings directory).isOk = (openAt place).isOk := by
  rw [Boot.device, Boot.openStore]
  cases openAt place <;> rfl

/-- **What comes of any file.** A text of an object is opened with exactly its members, the last one
of each name; a text of anything else, or of nothing, is opened as an empty store; bytes that are no
text are not opened. So a device comes up with a store file exactly if the file is a text. -/
theorem openAt_file_cases (content : Bytes) :
    (∀ members, SpellsObject (Json.maxDepth - 1) content members →
      ∃ s, openAt (.file content) = .ok s ∧ s.place = .file content ∧ s.committed = s.values ∧
        ∀ k, s.values.get? k = Member.last? k members) ∧
    ((¬∃ members, SpellsObject (Json.maxDepth - 1) content members) → IsText content →
      openAt (.file content) =
        .ok { place := .file content, values := .empty, committed := .empty }) ∧
    (¬IsText content → openAt (.file content) = .error (.host .notUtf8)) ∧
    ∀ settings surroundings directory,
      (Boot.device settings (.file content) surroundings directory).isOk = true ↔
        IsText content := by
  refine ⟨fun members h => ?_, fun hother htext => ?_, openAt_of_not_isText, fun _ _ _ => ?_⟩
  · exact ⟨_, openAt_of_isText h.spells.isText, rfl, rfl, valuesOf_of_spellsObject h⟩
  · rw [openAt_of_isText htext, valuesOf_of_other hother]
  · rw [isOk_device]
    by_cases htext : IsText content
    · simp [openAt_of_isText htext, htext, Except.isOk, Except.toBool]
    · simp [openAt_of_not_isText htext, htext, Except.isOk, Except.toBool]

/-- A name that comes twice, a text that breaks off, and a byte that no text has. -/
theorem openAt_file_cases_of_bad_files :
    let twice := Utf8.encode "\x7b\"k\": true, \"k\":\"v\"\x7d"
    let broken := Utf8.encode "\x7b\"wifi_ssid\": \"Ho"
    (∃ s, openAt (.file twice) = .ok s ∧ s.values.get? "k" = some (.text "v")) ∧
      openAt (.file broken) =
        .ok { place := .file broken, values := .empty, committed := .empty } ∧
      openAt (.file [0xFF]) = .error (.host .notUtf8) := by
  intro twice broken
  let members : List Member :=
    [⟨Utf8.encode "\"k\"", "k", Utf8.encode " true", .bool true⟩,
      ⟨Utf8.encode " \"k\"", "k", Utf8.encode "\"v\"", .text "v"⟩]
  have hk : JsonText.Spells (Utf8.encode "k") (Utf8.encode "k") := JsonText.spells_body "k"
  have hv : JsonText.Spells (Utf8.encode "v") (Utf8.encode "v") := JsonText.spells_body "v"
  have hspace : Json.Blanks [0x20] := by simp [Json.Blanks, Json.isBlankByte]
  have htwice : SpellsObject (Json.maxDepth - 1) twice members := by
    refine ⟨[], Json.separated (members.map Member.spelling), [], .nil, .nil, by decide +kernel,
      ?_, rfl⟩
    intro m hm
    rcases List.mem_cons.mp hm with rfl | hm
    · exact ⟨⟨[], Utf8.encode "k", [], .nil, .nil, by decide +kernel, hk⟩,
        .blanksBefore hspace (.word (w := "true") (by simp [Json.words]))⟩
    · obtain rfl := List.mem_singleton.mp hm
      exact ⟨⟨[0x20], Utf8.encode "k", [], hspace, .nil, by decide +kernel, hk⟩, .text hv⟩
  have hbroken : ¬∃ members, SpellsObject (Json.maxDepth - 1) broken members := by
    rintro ⟨members, hmembers⟩
    have hparse : (Json.parse? broken).isSome = true := by
      rw [Json.parse?_eq_some_iff.mpr hmembers.spells]
      rfl
    exact absurd hparse (by decide +kernel)
  obtain ⟨s, hopen, -, -, hget⟩ := (openAt_file_cases twice).1 members htwice
  exact ⟨⟨s, hopen, hget "k"⟩,
    (openAt_file_cases broken).2.1 hbroken (Utf8.isText_encode _),
    (openAt_file_cases [0xFF]).2.2.1 (by decide +kernel)⟩

end FileStore

end Onboarding
