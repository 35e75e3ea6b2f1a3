import Onboarding.Proofs.Portal.Protocol
import Onboarding.Proofs.Store.Refusals

/-!
# What lasts in a store

Whether an operation succeeds or fails, and wherever it fails, what it leaves behind is what some of
its changes leave, from the first one on: on a memory those before the refusal, on a file all or
none. So what stands under a key that an operation has no change for lasts, and a text lasts as a
text if it is replaced by texts only. In particular certificates outlive every record, whatever
becomes of it.

## Main results

* `Store.exists_take_perform`: what an operation leaves behind.
* `Store.get?_perform_of_forall_ne`: what an operation does not change lasts.
* `Store.Certified.perform`: certificates that are stored last.
-/

namespace Onboarding

/-- A text that is replaced by texts only lasts as a text. -/
theorem Write.leavesAll_text {ws : List Write} {k : String} {old : Option Json}
    (hws : ∀ w ∈ ws, w.key = k → ∃ v, w.value? = some (.text v))
    (hold : ∃ t, old = some (.text t)) : ∃ t, leavesAll ws k old = some (.text t) := by
  induction ws generalizing old with
  | nil => exact hold
  | cons w ws ih =>
      have hfirst : ∃ t, w.leaves k old = some (.text t) := by
        by_cases hw : w.key = k
        · obtain ⟨v, hv⟩ := hws w List.mem_cons_self hw
          exact ⟨v, by rw [leaves, if_pos hw, hv]⟩
        · rwa [leaves, if_neg hw]
      exact ih (fun v hv => hws v (List.mem_cons_of_mem _ hv)) hfirst

namespace Store

/-- A change that is refused leaves every look-up as it was. -/
theorem get?_apply_of_error {w : Write} {s t : Store} {e : StoreError}
    (h : s.apply w = (t, .error e)) (k : String) : t.get? k = s.get? k := by
  cases s with
  | file f => simp [apply] at h
  | memory m =>
      simp only [apply, MemoryStore.apply] at h
      split at h
      · obtain ⟨rfl, -⟩ := Prod.mk.inj h
        rfl
      · simp at h

/-- Changes made until one is refused leave what some of them leave, from the first one on. -/
theorem exists_take_applyAll (ws : List Write) (s : Store) :
    ∃ n, ∀ k, (s.applyAll ws).1.get? k = Write.leavesAll (ws.take n) k (s.get? k) := by
  induction ws generalizing s with
  | nil => exact ⟨0, fun _ => rfl⟩
  | cons w ws ih =>
      rw [applyAll]
      cases h : s.apply w with
      | mk t result =>
          cases result with
          | error e => exact ⟨0, get?_apply_of_error h⟩
          | ok u =>
              cases u
              obtain ⟨n, hn⟩ := ih t
              refine ⟨n + 1, ?_⟩
              intro k
              rw [hn k, get?_apply h k]
              rfl

/-- Changes to a memory leave a memory. -/
theorem exists_memory_applyAll (ws : List Write) (m : MemoryStore) :
    ∃ n, ((memory m).applyAll ws).1 = memory n := by
  induction ws generalizing m with
  | nil => exact ⟨m, rfl⟩
  | cons w ws ih =>
      rw [applyAll, apply]
      dsimp only
      split
      · rename_i s heq
        obtain ⟨rfl, -⟩ := Prod.mk.inj heq
        exact ih _
      · rename_i s e heq
        obtain ⟨rfl, -⟩ := Prod.mk.inj heq
        exact ⟨_, rfl⟩

/-- A commit changes no look-up of a memory. -/
theorem get?_memory_commit (m : MemoryStore) (k : String) :
    (memory m).commit.1.get? k = (memory m).get? k := by
  simp only [commit, MemoryStore.commit]
  split <;> rfl

/-- An operation on a memory leaves what its changes leave, whether they are committed or not. -/
theorem get?_memory_perform (ws : List Write) (m : MemoryStore) (k : String) :
    ((memory m).perform ws).1.get? k = ((memory m).applyAll ws).1.get? k := by
  obtain ⟨n, hn⟩ := exists_memory_applyAll ws m
  rw [perform]
  split
  · rename_i t heq
    rw [heq] at hn ⊢
    obtain rfl : t = memory n := hn
    exact get?_memory_commit n k
  · rename_i t e heq
    rw [heq]

/-- **What an operation leaves behind**, whether it succeeds or fails, is what some of its changes
leave, from the first one on. -/
theorem exists_take_perform {s : Store} (hs : s.IsUnstaged) (ws : List Write) :
    ∃ n, ∀ k, (s.perform ws).1.get? k = Write.leavesAll (ws.take n) k (s.get? k) := by
  cases s with
  | memory m =>
      obtain ⟨n, hn⟩ := exists_take_applyAll ws (memory m)
      exact ⟨n, fun k => (get?_memory_perform ws m k).trans (hn k)⟩
  | file f =>
      have hsteady : (file f).Steady := hs
      cases h : (file f).perform ws with
      | mk t result =>
          cases result with
          | error e => exact ⟨0, get?_perform_of_error hsteady h⟩
          | ok u =>
              refine ⟨ws.length, ?_⟩
              rw [List.take_length]
              exact get?_perform h

/-- After an operation a store has no staged changes. -/
theorem isUnstaged_perform (s : Store) (ws : List Write) : (s.perform ws).1.IsUnstaged := by
  cases s with
  | file f =>
      rw [perform, f.applyAll_eq ws]
      exact (f.changeAll ws).commit_values
  | memory m =>
      obtain ⟨n, hn⟩ := exists_memory_applyAll ws m
      rw [perform]
      split
      · rename_i t heq
        rw [heq] at hn
        obtain rfl : t = memory n := hn
        trivial
      · rename_i t e heq
        rw [heq] at hn
        obtain rfl : t = memory n := hn
        trivial

/-- What an operation leaves has no staged changes. -/
theorem isUnstaged_of_perform {s t : Store} {ws : List Write} {result : Except StoreError Unit}
    (h : s.perform ws = (t, result)) : t.IsUnstaged := by
  have hafter := s.isUnstaged_perform ws
  rwa [h] at hafter

/-- **What an operation has no change for lasts**, whether it succeeds or fails. -/
theorem get?_perform_of_forall_ne {s : Store} (hs : s.IsUnstaged) {ws : List Write} {k : String}
    (h : ∀ w ∈ ws, w.key ≠ k) : (s.perform ws).1.get? k = s.get? k := by
  obtain ⟨n, hn⟩ := exists_take_perform hs ws
  rw [hn k]
  exact Write.leavesAll_of_forall_ne (fun w hw => h w (List.mem_of_mem_take hw)) _

/-- Certificates that are saved, or not, leave the flag as it was. -/
theorem isProvisioned_saveCertificates {s : Store} (hs : s.IsUnstaged) (c : Certificates) :
    (s.saveCertificates c).1.isProvisioned = s.isProvisioned := by
  apply isProvisioned_congr
  apply get?_perform_of_forall_ne hs
  intro w hw heq
  have hmem : w.key ∈ Key.certificates :=
    keys_certificateWrites c ▸ List.mem_map_of_mem hw
  rw [heq] at hmem
  revert hmem
  decide

/-! ### Certificates -/

/-- A store that holds both certificates, and has no staged changes. -/
structure Certified (s : Store) : Prop where
  unstaged : s.IsUnstaged
  texts : ∀ k ∈ Key.certificates, ∃ t, s.get? k = some (.text t)

/-- Certificates that are held are loaded. -/
theorem Certified.loadCertificates {s : Store} (h : s.Certified) :
    ∃ c, s.loadCertificates = .ok (some c) := by
  obtain ⟨device, hdevice⟩ := h.texts Key.deviceCertificate (by decide)
  obtain ⟨authority, hauthority⟩ := h.texts Key.authorityCertificate (by decide)
  refine ⟨⟨device, authority⟩, ?_⟩
  simp only [Store.loadCertificates, getText_eq_of_get?, hdevice, hauthority]
  rfl

/-- Certificates that are saved are held. -/
theorem certified_saveCertificates {s : Store} {c : Certificates}
    (h : (s.saveCertificates c).2 = .ok ()) : (s.saveCertificates c).1.Certified where
  unstaged := s.isUnstaged_perform (certificateWrites c)
  texts := by
    intro k hk
    have hsave : s.saveCertificates c = ((s.saveCertificates c).1, .ok ()) := Prod.ext rfl h
    rw [get?_perform hsave]
    simp only [Key.certificates, List.mem_cons, List.not_mem_nil, or_false] at hk
    rcases hk with rfl | rfl
    · exact ⟨c.device, rfl⟩
    · exact ⟨c.authority, rfl⟩

/-- **Certificates that are held last** through every operation that replaces them by certificates
if at all. -/
theorem Certified.perform {s : Store} (h : s.Certified) {ws : List Write}
    (hws : ∀ w ∈ ws, w.key ∈ Key.certificates → ∃ v, w.value? = some (.text v)) :
    (s.perform ws).1.Certified where
  unstaged := s.isUnstaged_perform ws
  texts := by
    intro k hk
    obtain ⟨n, hn⟩ := exists_take_perform h.unstaged ws
    rw [hn k]
    refine Write.leavesAll_text ?_ (h.texts k hk)
    rintro w hw rfl
    exact hws w (List.mem_of_mem_take hw) hk

theorem Certified.clearRecord {s : Store} (h : s.Certified) : s.clearRecord.1.Certified := by
  apply h.perform
  intro w hw hk
  have hmem : w.key ∈ Key.provisioned :: Key.record := keys_clearWrites ▸ List.mem_map_of_mem hw
  have hdisjoint : ∀ k ∈ Key.provisioned :: Key.record, k ∉ Key.certificates := by decide
  exact absurd hk (hdisjoint w.key hmem)

theorem Certified.saveRecord {s : Store} (h : s.Certified) (r : DeviceRecord) :
    (s.saveRecord r).1.Certified := by
  apply h.perform
  intro w hw hk
  have hmem : w.key ∈ Key.record ++ [Key.provisioned] :=
    keys_saveWrites r ▸ List.mem_map_of_mem hw
  have hdisjoint : ∀ k ∈ Key.record ++ [Key.provisioned], k ∉ Key.certificates := by decide
  exact absurd hk (hdisjoint w.key hmem)

theorem Certified.saveCertificates {s : Store} (h : s.Certified) (c : Certificates) :
    (s.saveCertificates c).1.Certified := by
  apply h.perform
  intro w hw _
  simp only [certificateWrites, List.mem_cons, List.not_mem_nil, or_false] at hw
  rcases hw with rfl | rfl
  · exact ⟨c.device, rfl⟩
  · exact ⟨c.authority, rfl⟩

end Store

end Onboarding
