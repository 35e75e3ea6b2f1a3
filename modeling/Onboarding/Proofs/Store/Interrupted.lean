import Onboarding.Proofs.Store.Refusals

/-!
# Calls that are cut off

A store in memory makes every change at once, so a call that is cut off leaves the changes that it
made before. Saving a record writes the flag last and clearing one erases it first: whatever is left
of earlier calls, the flag stands over the fields of one record or it does not stand at all.

A cut is a store that makes so many more changes and refuses all after them, which ends the call
there (`Store.cut`). Beside a run of such calls stands the record that the store should load
(`CutCall.standing`).

## Main results

* `Store.get?_perform_failingAfter`: what a call leaves that is cut off.
* `Store.Stands.cut`: what stands in the store, call by call.
* `Store.loadRecord_cutAll`: after any run the store loads the record that stands, or none.
-/

namespace Onboarding

/-- A schedule that lets so many attempts succeed and none after them. -/
def Faults.failingAfter (n : Nat) : Faults :=
  { coming := List.replicate n false, afterwards := true }

/-- A call on the record that is cut off after some of its changes. -/
inductive CutCall where
  | save (r : DeviceRecord) (changes : Nat)
  | clear (changes : Nat)

namespace CutCall

/-- Whether a call saves a record. -/
def isSave : CutCall → Bool
  | save _ _ => true
  | clear _ => false

/-- The changes that are made before the cut. -/
def made : CutCall → List Write
  | save r n => (Store.saveWrites r).take n
  | clear n => Store.clearWrites.take n

/-- The record that stands after a cut, if `before` stood before the call. A saved record stands
from its flag on, and a clear ends it with the first change. -/
def standing (before : Option DeviceRecord) (c : CutCall) : Option DeviceRecord :=
  match c with
  | save r _ => if .setFlag Key.provisioned true ∈ c.made then some r else before
  | clear _ => if c.made = [] then before else none

/-- The record that stands after a run that begins without one. -/
def standingAfter (calls : List CutCall) : Option DeviceRecord :=
  calls.foldl standing none

end CutCall

namespace Store

/-- A store in memory that makes so many more changes and none after them. -/
def failingAfter (n : Nat) : Store → Store
  | memory m => memory { m with faults := .failingAfter n }
  | file f => file f

/-- The store after a call that is cut off. -/
def cut (s : Store) : CutCall → Store
  | .save r n => ((s.failingAfter n).saveRecord r).1
  | .clear n => (s.failingAfter n).clearRecord.1

/-- The store after calls that are cut off, in their order. -/
def cutAll (s : Store) (calls : List CutCall) : Store :=
  calls.foldl cut s

/-- Calls of which every save begins while the flag is unset. -/
def SavesUnset : List CutCall → Store → Prop
  | [], _ => True
  | c :: calls, s =>
    (c.isSave = true → s.isProvisioned ≠ .ok true) ∧ SavesUnset calls (s.cut c)

instance decidableSavesUnset : ∀ (calls : List CutCall) (s : Store), Decidable (SavesUnset calls s)
  | [], _ => .isTrue trivial
  | c :: calls, s =>
    have := decidableSavesUnset calls (s.cut c)
    inferInstanceAs (Decidable ((c.isSave = true → s.isProvisioned ≠ .ok true) ∧ _))

/-! ### What a cut leaves -/

/-- Changes that are cut off leave those before the cut. -/
theorem get?_applyAll_failingAfter (ws : List Write) (n : Nat) (m : MemoryStore) :
    ∃ (t : MemoryStore) (result : Except StoreError Unit),
      ((memory m).failingAfter n).applyAll ws = (memory t, result) ∧
        ∀ k, (memory t).get? k = Write.leavesAll (ws.take n) k ((memory m).get? k) := by
  induction ws generalizing n m with
  | nil =>
      refine ⟨{ m with faults := .failingAfter n }, .ok (), rfl, ?_⟩
      intro k
      rw [List.take_nil]
      rfl
  | cons w ws ih =>
      cases n with
      | zero => exact ⟨_, _, rfl, fun k => rfl⟩
      | succ n =>
          obtain ⟨t, result, happly, hget⟩ := ih n (m.change w)
          refine ⟨t, result, ?_, ?_⟩
          · rw [← happly]
            cases w <;> rfl
          · intro k
            rw [hget k, get?_memory_change]
            rfl

/-- An operation that is cut off leaves its changes before the cut, whether it gets to its commit or
not. -/
theorem get?_perform_failingAfter (ws : List Write) (n : Nat) (m : MemoryStore) :
    ∃ t : MemoryStore, (((memory m).failingAfter n).perform ws).1 = memory t ∧
      ∀ k, (memory t).get? k = Write.leavesAll (ws.take n) k ((memory m).get? k) := by
  obtain ⟨t, result, happly, hget⟩ := get?_applyAll_failingAfter ws n m
  rw [perform, happly]
  cases result with
  | error e => exact ⟨t, rfl, hget⟩
  | ok _ =>
      simp only [commit, MemoryStore.commit]
      split
      · exact ⟨_, rfl, hget⟩
      · exact ⟨_, rfl, hget⟩

/-- A call that is cut off leaves its changes before the cut. -/
theorem get?_cut (c : CutCall) (m : MemoryStore) :
    ∃ t : MemoryStore, (memory m).cut c = memory t ∧
      ∀ k, (memory t).get? k = Write.leavesAll c.made k ((memory m).get? k) := by
  cases c with
  | save r n => exact get?_perform_failingAfter (saveWrites r) n m
  | clear n => exact get?_perform_failingAfter clearWrites n m

/-! ### Saving a record, change by change -/

/-- Saving a record writes every field, and then the flag. -/
theorem saveWrites_eq (r : DeviceRecord) :
    ∃ fields : List Write, saveWrites r = fields ++ [.setFlag Key.provisioned true] ∧
      fields.map Write.key = Key.record := by
  refine ⟨(saveWrites r).dropLast, ?_, ?_⟩
  · rfl
  · cases hb : r.bearerToken <;> simp only [saveWrites, hb] <;> rfl

/-- Saving a record writes over the flag and every field, whatever stood there before. -/
theorem leavesAll_saveWrites (r : DeviceRecord) {k : String}
    (hk : k ∈ Key.provisioned :: Key.record) (old : Option Json) :
    Write.leavesAll (saveWrites r) k old = Write.leavesAll (saveWrites r) k none := by
  obtain ⟨fields, hsplit, hkeys⟩ := saveWrites_eq r
  apply Write.leavesAll_of_exists_eq
  rw [hsplit]
  rcases List.mem_cons.mp hk with rfl | hk
  · exact ⟨_, List.mem_append_right _ List.mem_cons_self, rfl⟩
  · rw [← hkeys] at hk
    obtain ⟨w, hw, hkey⟩ := List.mem_map.mp hk
    exact ⟨w, List.mem_append_left _ hw, hkey⟩

/-- A save that is cut off was finished, or did not come to the flag. -/
theorem take_saveWrites (r : DeviceRecord) (n : Nat) :
    (saveWrites r).take n = saveWrites r ∨
      ∀ w ∈ (saveWrites r).take n, w.key ≠ Key.provisioned := by
  obtain ⟨fields, hsplit, hkeys⟩ := saveWrites_eq r
  rw [hsplit]
  rcases Nat.lt_or_ge fields.length n with hlt | hle
  · left
    apply List.take_of_length_le
    rw [List.length_append, List.length_singleton]
    omega
  · right
    intro w hw
    rw [List.take_append_of_le_length hle] at hw
    have hkey : w.key ∈ Key.record := by
      rw [← hkeys]
      exact List.mem_map_of_mem (List.mem_of_mem_take hw)
    have hflag : Key.provisioned ∉ Key.record := by decide
    exact fun heq => hflag (heq ▸ hkey)

/-! ### What stands -/

/-- Without a record the flag is unset; with one everything is there that saving it leaves. -/
def Stands (s : Store) : Option DeviceRecord → Prop
  | none => s.isProvisioned = .ok false
  | some r =>
    ∀ k ∈ Key.provisioned :: Key.record, s.get? k = Write.leavesAll (saveWrites r) k none

namespace Stands

/-- What stands in a store is a matter of its flag and its fields. -/
theorem congr {s t : Store} {record : Option DeviceRecord} (h : s.Stands record)
    (hget : ∀ k ∈ Key.provisioned :: Key.record, t.get? k = s.get? k) : t.Stands record := by
  cases record with
  | none => exact (isProvisioned_congr (hget _ List.mem_cons_self)).trans h
  | some r => exact fun k hk => (hget k hk).trans (h k hk)

/-- **The record that stands is the one that is loaded.** -/
theorem loadRecord_eq {s : Store} {record : Option DeviceRecord} (h : s.Stands record) :
    s.loadRecord = .ok (record.map fun r => { r with provisioned := true }) := by
  cases record with
  | none => exact loadRecord_of_unset h
  | some r =>
      -- saving the record on an empty store leaves just what stands here
      obtain ⟨t, hsave, -⟩ := perform_of_never (m := {}) rfl (saveWrites r)
      have hsame : ∀ k ∈ Key.provisioned :: Key.record, s.get? k = (memory t).get? k :=
        fun k hk => (h k hk).trans (get?_perform hsave k).symm
      exact (loadRecord_congr hsame).trans (loadRecord_saveRecord hsave)

/-- A record stands under a set flag. -/
theorem isProvisioned {s : Store} {r : DeviceRecord} (h : s.Stands (some r)) :
    s.isProvisioned = .ok true :=
  isProvisioned_of_loadRecord h.loadRecord_eq

/-- A save that begins while the flag is unset leaves its record once it comes to the flag. -/
theorem cut_save {m : MemoryStore} {record : Option DeviceRecord}
    (h : (memory m).Stands record) (hunset : (memory m).isProvisioned ≠ .ok true)
    (r : DeviceRecord) (n : Nat) :
    ((memory m).cut (.save r n)).Stands (CutCall.standing record (.save r n)) := by
  obtain ⟨t, ht, hget⟩ := get?_cut (.save r n) m
  rw [ht]
  have hmade : (CutCall.save r n).made = (saveWrites r).take n := rfl
  cases record with
  | some old => exact absurd h.isProvisioned hunset
  | none =>
      rw [CutCall.standing, hmade]
      rw [hmade] at hget
      rcases take_saveWrites r n with hwhole | hpart
      · have hflag : Write.setFlag Key.provisioned true ∈ saveWrites r := by
          obtain ⟨fields, hsplit, -⟩ := saveWrites_eq r
          rw [hsplit]
          exact List.mem_append_right _ List.mem_cons_self
        rw [hwhole] at hget
        rw [hwhole, if_pos hflag]
        intro k hk
        rw [hget k, leavesAll_saveWrites r hk]
      · have hflag : Write.setFlag Key.provisioned true ∉ (saveWrites r).take n :=
          fun hmem => hpart _ hmem rfl
        rw [if_neg hflag]
        have hsame : (memory t).get? Key.provisioned = (memory m).get? Key.provisioned := by
          rw [hget, Write.leavesAll_of_forall_ne hpart]
        exact (isProvisioned_congr hsame).trans h

/-- A clear leaves no record once it has begun. -/
theorem cut_clear {m : MemoryStore} {record : Option DeviceRecord}
    (h : (memory m).Stands record) (n : Nat) :
    ((memory m).cut (.clear n)).Stands (CutCall.standing record (.clear n)) := by
  obtain ⟨t, ht, hget⟩ := get?_cut (.clear n) m
  rw [ht]
  cases n with
  | zero => exact h.congr fun k _ => hget k
  | succ n =>
      have hmade : (CutCall.clear (n + 1)).made =
          ((Key.provisioned :: Key.record).take (n + 1)).map .erase := by
        rw [List.map_take]
        rfl
      have hnone : (memory t).get? Key.provisioned = none := by
        rw [hget, hmade, Write.leavesAll_erase, List.take_succ_cons, if_pos List.mem_cons_self]
      exact isProvisioned_of_get? hnone

/-- **Each call that is cut off leaves what stands after it**, if a save begins while the flag is
unset. -/
theorem cut {m : MemoryStore} {record : Option DeviceRecord} (h : (memory m).Stands record)
    (c : CutCall) (hunset : c.isSave = true → (memory m).isProvisioned ≠ .ok true) :
    ((memory m).cut c).Stands (CutCall.standing record c) := by
  cases c with
  | save r n => exact h.cut_save (hunset rfl) r n
  | clear n => exact h.cut_clear n

theorem cutAll {m : MemoryStore} {record : Option DeviceRecord} (h : (memory m).Stands record)
    {calls : List CutCall} (hcalls : SavesUnset calls (memory m)) :
    ((memory m).cutAll calls).Stands (calls.foldl CutCall.standing record) := by
  induction calls generalizing m record with
  | nil => exact h
  | cons c calls ih =>
      obtain ⟨hunset, hrest⟩ := hcalls
      have hcut := h.cut c hunset
      obtain ⟨t, ht, -⟩ := get?_cut c m
      rw [ht] at hcut hrest
      rw [Store.cutAll, List.foldl_cons, List.foldl_cons, ht]
      exact ih hcut hrest

end Stands

/-- **Whatever is cut off, a store loads no record or the one that stands**: the last one whose save
came to its flag, unless a clear has begun since. What was in the store at first under an unset
flag, and what is left of other calls, never shows. -/
theorem loadRecord_cutAll (m : MemoryStore) (hm : (memory m).isProvisioned = .ok false)
    (calls : List CutCall) (hcalls : SavesUnset calls (memory m)) :
    ((memory m).cutAll calls).loadRecord =
      .ok ((CutCall.standingAfter calls).map fun r => { r with provisioned := true }) := by
  have hstart : (memory m).Stands none := hm
  exact (hstart.cutAll hcalls).loadRecord_eq

/-- A record with a bearer token is saved, and clearing it stops after the flag. Saving another one
without a bearer token stops before the flag, and is done again. -/
theorem loadRecord_cutAll_of_leftovers :
    let first : DeviceRecord := ⟨"Home", "secret123", "d", "t", some "b", true⟩
    let second : DeviceRecord := ⟨"Other", "", "d", "u", none, true⟩
    let calls : List CutCall := [.save first 6, .clear 1, .save second 2, .save second 6]
    SavesUnset calls (memory {}) ∧
      ((memory {}).cutAll calls).loadRecord = .ok (some second) := by
  intro first second calls
  have hcalls : SavesUnset calls (memory {}) := by decide +kernel
  exact ⟨hcalls, loadRecord_cutAll {} rfl calls hcalls⟩

end Store

end Onboarding
