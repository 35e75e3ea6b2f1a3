import Onboarding.Proofs.Net.Addresses
import Onboarding.Proofs.Settings.Faults
import Onboarding.Proofs.Text.Cuts
import Onboarding.Proofs.Text.Trimming

/-!
# Which settings are accepted

What a setting allows (`Setting.Allows`) is said by the texts alone: lengths in bytes, numerals
within bounds, spelled addresses and a list of words. A look-up is accepted exactly if every value
in it is allowed, and otherwise the error names the first setting, in reading order, whose value is
not. Settings that were accepted are fit for what they are used for (`Settings.Sound`): an access
point that can be opened with them can also be joined with them.

## Main results

* `Settings.fault?_eq_none_iff`: a setting has no fault exactly if its value is allowed.
* `Settings.sound_assembled`: what is assembled without a fault is sound.
* `Settings.load_characterized`: when reading succeeds, and what it reports otherwise.
-/

namespace Onboarding

/-- A whole number in the given bounds, with blanks around it. -/
def SpellsWithin (least greatest : Nat) (v : String) : Prop :=
  ∃ n, Numeral.Spells (Text.trim v.toList) n ∧ least ≤ n ∧ n ≤ greatest

/-- The words for yes and for no; nothing is a word for no. -/
def flagWords : List String :=
  ["1", "true", "yes", "on", "0", "false", "no", "off", ""]

/-- The values that a setting may have. -/
def Setting.Allows : Setting → String → Prop
  | apSsid, v => 1 ≤ v.utf8ByteSize ∧ v.utf8ByteSize ≤ 32
  | apPassword, v => v.utf8ByteSize = 0 ∨ 8 ≤ v.utf8ByteSize ∧ v.utf8ByteSize ≤ 64
  | apChannel, v => SpellsWithin 1 13 v
  | apMaxConnections, v => SpellsWithin 0 255 v
  | bindAddress, v => ∃ a, SocketAddress.Spells (Text.trim v.toList) a
  | httpWorkers, v => SpellsWithin 1 (UInt64.size - 1) v
  | eraseOnBoot, v => ∃ w ∈ flagWords, (Text.trim v.toList).map Char.toLower = w.toList
  | _, _ => True

namespace Lookup

/-- A look-up gives a setting no value, or one that it may have. -/
def Admits (look : Lookup) (s : Setting) : Prop :=
  ∀ v ∈ look s, s.Allows v

/-- The first setting in reading order with a value that it may not have. -/
def FirstRefused (look : Lookup) (s : Setting) : Prop :=
  ¬look.Admits s ∧
    ∃ before after, Setting.all = before ++ s :: after ∧ ∀ t ∈ before, look.Admits t

end Lookup

namespace Settings

/-! ### Values -/

theorem bind_eq_ok_iff {ε α β : Type} {x : Except ε α} {f : α → Except ε β} {b : β} :
    (x >>= f) = .ok b ↔ ∃ a, x = .ok a ∧ f a = .ok b := by
  cases x <;> simp [bind, Except.bind]

section

variable {v : String}

theorem parseSsid_eq_ok_iff {a : String} :
    parseSsid v = .ok a ↔ v = a ∧ Setting.apSsid.Allows v := by
  have hmax : maxSsidLength = 32 := rfl
  rw [parseSsid, Setting.Allows]
  split
  · exact iff_of_false (by simp) (by omega)
  · rw [Except.ok.injEq, and_iff_left (by omega)]

theorem parsePassword_eq_ok_iff {a : String} :
    parsePassword v = .ok a ↔ v = a ∧ Setting.apPassword.Allows v := by
  have hmin : minPasswordLength = 8 := rfl
  have hmax : maxPasswordLength = 64 := rfl
  rw [parsePassword, Setting.Allows]
  split
  · exact iff_of_false (by simp) (by omega)
  · rw [Except.ok.injEq, and_iff_left (by omega)]

theorem parseTrimmed_eq_ok_iff {α : Type} {f : List Char → Option α} {a : α} :
    parseTrimmed f v = .ok a ↔ f (Text.trim v.toList) = some a := by
  rw [parseTrimmed]
  split
  · rename_i b hb
    rw [hb, Except.ok.injEq, Option.some.injEq]
  · rename_i hb
    rw [hb]
    exact iff_of_false (by simp) (by simp)

theorem parseByte_eq_ok_iff {n : UInt8} :
    parseByte v = .ok n ↔ Numeral.Spells (Text.trim v.toList) n.toNat := by
  rw [parseByte, parseTrimmed_eq_ok_iff, Option.map_eq_some_iff]
  constructor
  · rintro ⟨m, hm, rfl⟩
    obtain ⟨hspells, hle⟩ := Numeral.parse?_eq_some_iff.mp hm
    rwa [Address.toNat_toUInt8 hle]
  · intro hspells
    refine ⟨n.toNat, Numeral.parse?_eq_some_iff.mpr ⟨hspells, ?_⟩, by simp⟩
    exact Nat.le_of_lt_succ n.toNat_lt

/-- A number within small bounds is a byte. -/
theorem spellsWithin_iff_byte {least greatest : Nat} (h : greatest ≤ 255) :
    SpellsWithin least greatest v ↔
      ∃ n : UInt8, Numeral.Spells (Text.trim v.toList) n.toNat ∧
        least ≤ n.toNat ∧ n.toNat ≤ greatest := by
  constructor
  · rintro ⟨n, hspells, hleast, hgreatest⟩
    have hn : n.toUInt8.toNat = n := Address.toNat_toUInt8 (Nat.le_trans hgreatest h)
    exact ⟨n.toUInt8, by rwa [hn], by rwa [hn], by rwa [hn]⟩
  · rintro ⟨n, hn⟩
    exact ⟨n.toNat, hn⟩

theorem parseChannel_eq_ok_iff {n : UInt8} :
    parseChannel v = .ok n ↔
      Numeral.Spells (Text.trim v.toList) n.toNat ∧ 1 ≤ n.toNat ∧ n.toNat ≤ 13 := by
  rw [parseChannel, bind_eq_ok_iff]
  constructor
  · rintro ⟨m, hbyte, hm⟩
    split at hm
    · rename_i hbounds
      obtain rfl := Except.ok.inj hm
      exact ⟨parseByte_eq_ok_iff.mp hbyte, hbounds⟩
    · simp at hm
  · rintro ⟨hspells, hbounds⟩
    exact ⟨n, parseByte_eq_ok_iff.mpr hspells, if_pos hbounds⟩

theorem parseWorkers_eq_ok_iff {n : Nat} :
    parseWorkers v = .ok n ↔
      Numeral.Spells (Text.trim v.toList) n ∧ 1 ≤ n ∧ n ≤ UInt64.size - 1 := by
  simp only [parseWorkers, bind_eq_ok_iff, parseTrimmed_eq_ok_iff, Numeral.parse?_eq_some_iff]
  constructor
  · rintro ⟨m, ⟨hspells, hle⟩, hm⟩
    split at hm
    · simp at hm
    · rename_i hzero
      obtain rfl := Except.ok.inj hm
      exact ⟨hspells, Nat.one_le_iff_ne_zero.mpr hzero, hle⟩
  · rintro ⟨hspells, hpos, hle⟩
    exact ⟨n, ⟨hspells, hle⟩, if_neg (Nat.one_le_iff_ne_zero.mp hpos)⟩

/-- A word counts for yes or no exactly if it is listed, in any case. -/
theorem exists_flag?_iff {cs : List Char} :
    (∃ b, flag? cs = some b) ↔ ∃ w ∈ flagWords, cs.map Char.toLower = w.toList := by
  have hword : ∀ w, String.ofList (cs.map Char.toLower) = w ↔ cs.map Char.toLower = w.toList :=
    fun w => by rw [← String.toList_inj, String.toList_ofList]
  have hlisted : (∃ w ∈ flagWords, cs.map Char.toLower = w.toList) ↔
      String.ofList (cs.map Char.toLower) ∈ flagWords := by
    simp only [← hword, exists_eq_right']
  have hsplit : flagWords = ["1", "true", "yes", "on"] ++ ["0", "false", "no", "off", ""] := rfl
  rw [hlisted, flag?, hsplit, List.mem_append]
  split
  · rename_i hyes
    exact iff_of_true ⟨true, rfl⟩ (.inl hyes)
  · rename_i hyes
    split
    · rename_i hno
      exact iff_of_true ⟨false, rfl⟩ (.inr hno)
    · rename_i hno
      exact iff_of_false (by simp) (not_or.mpr ⟨hyes, hno⟩)

end

/-- **A setting has no fault** exactly if its value is one that it may have. -/
theorem fault?_eq_none_iff {look : Lookup} {s : Setting} :
    fault? look s = none ↔ look.Admits s := by
  have hread : ∀ {α : Type} {parse : String → Except String α},
      (∀ v, (∃ a, parse v = .ok a) ↔ s.Allows v) →
        (refusal look s parse = none ↔ look.Admits s) := by
    intro α parse hparse
    simp only [refusal_eq_none_iff, hparse]
    rfl
  cases s with
  | apSsid => exact hread fun v => by simp [parseSsid_eq_ok_iff]
  | apPassword => exact hread fun v => by simp [parsePassword_eq_ok_iff]
  | apChannel =>
      exact hread fun v => by
        simp only [parseChannel_eq_ok_iff, Setting.Allows]
        exact (spellsWithin_iff_byte (by decide)).symm
  | apMaxConnections =>
      exact hread fun v => by
        simp only [parseByte_eq_ok_iff, Setting.Allows, spellsWithin_iff_byte (Nat.le_refl 255)]
        exact exists_congr fun n =>
          (and_iff_left ⟨Nat.zero_le _, Nat.le_of_lt_succ n.toNat_lt⟩).symm
  | bindAddress =>
      exact hread fun v => by
        simp only [parseTrimmed_eq_ok_iff, SocketAddress.parse?_eq_some_iff, Setting.Allows]
  | httpWorkers => exact hread fun v => by simp only [parseWorkers_eq_ok_iff]; rfl
  | eraseOnBoot =>
      exact hread fun v => by simp only [parseTrimmed_eq_ok_iff, exists_flag?_iff, Setting.Allows]
  | backendUrl | brokerUri | probeTarget | certificateDirectory | csrPem | keyPem | hostNetworks =>
      exact iff_of_true rfl fun _ _ => trivial

/-! ### Accepted settings -/

/-- Settings that are fit for use. -/
structure Sound (c : Settings) : Prop where
  /-- What the access point is opened with is what a network can be joined with. -/
  joinable : (⟨c.accessPoint.ssid, c.accessPoint.password⟩ : Credentials).validate = .ok ()
  backendUrl : c.backendUrl.toList.getLast? ≠ some '/'
  csrPem : c.csrPem ≠ some ""
  keyPem : c.keyPem ≠ some ""
  hostNetworks : ∀ n ∈ c.hostNetworks, n ≠ "" ∧ Text.Trimmed n.toList ∧ ',' ∉ n.toList

theorem getLast?_withoutSlashes (v : String) : (withoutSlashes v).toList.getLast? ≠ some '/' := by
  intro hlast
  have hhead := List.head?_dropWhile_not (· == '/') v.toList.reverse
  rw [withoutSlashes, String.toList_ofList, List.getLast?_reverse] at hlast
  rw [hlast] at hhead
  simp at hhead

theorem nonEmpty_ne (v : Option String) : nonEmpty v ≠ some "" := by
  intro h
  simp [nonEmpty, Option.filter_eq_some_iff] at h

/-- A listed name has something in it, no blank at either end and no comma. -/
theorem spec_of_mem_names {v n : String} (h : n ∈ names v) :
    n ≠ "" ∧ Text.Trimmed n.toList ∧ ',' ∉ n.toList := by
  obtain ⟨t, ht, rfl⟩ := List.mem_map.mp h
  obtain ⟨hmem, hne⟩ := List.mem_filter.mp ht
  obtain ⟨p, hp, rfl⟩ := List.mem_map.mp hmem
  rw [String.toList_ofList]
  refine ⟨fun hempty => ?_, Text.trimmed_trim p, fun hcomma => ?_⟩
  · have hnil : Text.trim p = [] := by simpa using congrArg String.toList hempty
    simp [hnil] at hne
  · exact Text.not_mem_of_mem_pieces hp (Text.mem_of_mem_trim hcomma)

/-- The default networks are a list that could have been written. -/
theorem hostNetworks_assembled (look : Lookup) :
    (assembled look).hostNetworks = names ((look .hostNetworks).getD "HomeNet,Office") := by
  have hdefault : names "HomeNet,Office" = ["HomeNet", "Office"] := by decide +kernel
  simp only [assembled]
  cases look .hostNetworks with
  | none => exact hdefault.symm
  | some v => rfl

/-- What is read as it stands may stand there, if the default may. -/
theorem allows_valueOr {look : Lookup} {s : Setting} {default : String}
    {parse : String → Except String String}
    (hparse : ∀ {v a}, parse v = .ok a → v = a ∧ s.Allows v)
    (hfault : refusal look s parse = none) (hdefault : s.Allows default) :
    s.Allows (valueOr look s default parse) := by
  rcases valueOr_cases hfault default with ⟨-, heq⟩ | ⟨v, -, hv⟩
  · rwa [heq]
  · obtain ⟨heq, hallows⟩ := hparse hv
    rwa [← heq]

/-- **What is assembled without a fault is sound.** -/
theorem sound_assembled {look : Lookup} (h : ∀ s, fault? look s = none) : (assembled look).Sound where
  joinable := by
    have hssid : Setting.apSsid.Allows (assembled look).accessPoint.ssid :=
      allows_valueOr parseSsid_eq_ok_iff.mp (h .apSsid) ⟨by decide, by decide⟩
    have hpassword : Setting.apPassword.Allows (assembled look).accessPoint.password :=
      allows_valueOr parsePassword_eq_ok_iff.mp (h .apPassword) (.inl rfl)
    exact (Credentials.validate_eq_ok_iff _).mpr ⟨hssid, hpassword⟩
  backendUrl := by
    simp only [assembled]
    cases look .backendUrl with
    | none => decide
    | some v => exact getLast?_withoutSlashes v
  csrPem := nonEmpty_ne _
  keyPem := nonEmpty_ne _
  hostNetworks := by
    rw [hostNetworks_assembled]
    exact fun n hn => spec_of_mem_names hn

/-- The first fault is that of the first setting with a value that it may not have. -/
theorem exists_firstFault?_iff {look : Lookup} {s : Setting} :
    (∃ shown, firstFault? look = some ⟨s, shown⟩) ↔ look.FirstRefused s := by
  simp only [firstFault?_eq_some_iff, fault?_eq_none_iff]
  constructor
  · rintro ⟨shown, before, after, hall, hbefore, hs⟩
    refine ⟨fun hadmits => ?_, before, after, hall, hbefore⟩
    rw [fault?_eq_none_iff.mpr hadmits] at hs
    simp at hs
  · rintro ⟨hs, before, after, hall, hbefore⟩
    obtain ⟨e, he⟩ := Option.ne_none_iff_exists'.mp (mt fault?_eq_none_iff.mp hs)
    obtain rfl := setting_of_fault? he
    exact ⟨e.value, before, after, hall, hbefore, he⟩

/-- **When reading succeeds, and what it reports otherwise.** -/
theorem load_characterized (look : Lookup) :
    ((∃ e, load look = .error e) ↔ ∃ s, ¬look.Admits s) ∧
    (∀ s, (∃ shown, load look = .error ⟨s, shown⟩) ↔ look.FirstRefused s) ∧
    ((∃ c, load look = .ok c ∧ c.Sound) ↔ ∀ s, look.Admits s) := by
  have hnone : firstFault? look = none ↔ ∀ s, look.Admits s := by
    simp only [firstFault?_eq_none_iff, fault?_eq_none_iff]
  simp only [load_eq_error_iff, load_eq_ok_iff]
  refine ⟨?_, fun s => exists_firstFault?_iff, ?_⟩
  · rw [← Option.isSome_iff_exists, ← not_forall, ← hnone, Option.isSome_iff_ne_none]
  · constructor
    · rintro ⟨c, ⟨hc, -⟩, -⟩
      exact hnone.mp hc
    · intro hadmits
      have hfault := hnone.mpr hadmits
      exact ⟨_, ⟨hfault, rfl⟩, sound_assembled (firstFault?_eq_none_iff.mp hfault)⟩

end Settings

end Onboarding
