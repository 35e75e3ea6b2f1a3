import Onboarding.Proofs.Store.Writes

/-!
# Operations that fail and operations that cannot

A backend may refuse any change and any commit. What a refused operation leaves behind depends on
the changes before the refusal: a store in a file takes them back, a store in memory keeps them. In
a `Steady` store nothing is left: it is a file without staged changes, or a memory that refuses
everything or nothing. In a `Reliable` store nothing is refused at all.

## Main results

* `Store.get?_perform_of_error`: an operation that fails changes no look-up of a steady store.
* `Store.Steady.perform`: a steady store stays steady.
* `Store.Reliable.perform`: on a reliable store every operation succeeds and leaves it reliable.
-/

namespace Onboarding

/-- A place that a file can be written to. -/
def Place.IsWritable : Place → Prop
  | absent | file _ => True
  | directory | obstructed | sink => False

instance : DecidablePred Place.IsWritable
  | .absent | .file _ => inferInstanceAs (Decidable True)
  | .directory | .obstructed | .sink => inferInstanceAs (Decidable False)

/-- What is written to a place that can be written to reads back as it was written. -/
theorem FileStore.writeVerified_of_isWritable {place : Place} (h : place.IsWritable)
    (text : String) :
    FileStore.writeVerified place false text = (.file (Utf8.encode text), .ok ()) := by
  have hwrite : place.write (Utf8.encode text) = .ok (.file (Utf8.encode text)) := by
    cases place with
    | absent | file content => rfl
    | directory | obstructed | sink => exact h.elim
  simp [writeVerified, hwrite, Place.readText, Place.read, Utf8.decode_encode]

namespace FileStore

/-- Stages changes one after the other. -/
def changeAll (s : FileStore) (ws : List Write) : FileStore :=
  ws.foldl change s

/-- Staging changes leaves all but the staged values. -/
theorem changeAll_eq (s : FileStore) (ws : List Write) :
    s.changeAll ws = { s with values := (s.changeAll ws).values } := by
  induction ws generalizing s with
  | nil => rfl
  | cons w ws ih =>
      have htail : s.changeAll (w :: ws) = (s.change w).changeAll ws := rfl
      rw [htail, ih, s.change_eq w]

/-- Staging changes to a file never fails. -/
theorem applyAll_eq (s : FileStore) (ws : List Write) :
    (Store.file s).applyAll ws = (.file (s.changeAll ws), .ok ()) := by
  induction ws generalizing s with
  | nil => rfl
  | cons w ws ih =>
      rw [Store.applyAll, Store.apply]
      exact ih (s.change w)

end FileStore

namespace Store

/-! ### Stores in which a failure leaves no trace -/

/-- A file without staged changes, or a memory that refuses everything or nothing. -/
def Steady : Store → Prop
  | memory m => m.faults = .never ∨ m.faults = .always
  | file f => f.values = f.committed

/-- A memory that refuses everything refuses every operation and stays as it is. -/
theorem perform_of_always {m : MemoryStore} (h : m.faults = .always) (ws : List Write) :
    (memory m).perform ws = (memory m, .error MemoryStore.refused) := by
  obtain ⟨values, writeLog, commits, faults⟩ := m
  obtain rfl : faults = .always := h
  cases ws with
  | nil => rfl
  | cons w ws => rfl

/-- A memory that refuses nothing makes every list of changes and goes on refusing nothing. -/
theorem applyAll_of_never {m : MemoryStore} (h : m.faults = .never) (ws : List Write) :
    ∃ n : MemoryStore, (memory m).applyAll ws = (memory n, .ok ()) ∧ n.faults = .never := by
  induction ws generalizing m with
  | nil => exact ⟨m, rfl, h⟩
  | cons w ws ih =>
      have hw : ({ m with faults := .never }.change w : MemoryStore).faults = .never := by
        cases w <;> rfl
      obtain ⟨n, hn, hf⟩ := ih hw
      refine ⟨n, ?_, hf⟩
      simp only [applyAll, apply, MemoryStore.apply, h, Faults.next_never, Bool.false_eq_true,
        if_false]
      exact hn

/-- A memory that refuses nothing carries every operation out. -/
theorem perform_of_never {m : MemoryStore} (h : m.faults = .never) (ws : List Write) :
    ∃ n : MemoryStore, (memory m).perform ws = (memory n, .ok ()) ∧ n.faults = .never := by
  obtain ⟨n, hn, hf⟩ := applyAll_of_never h ws
  refine ⟨{ n with faults := .never, commits := n.commits + 1 }, ?_, rfl⟩
  simp only [perform, hn, commit, MemoryStore.commit, hf, Faults.next_never, Bool.false_eq_true,
    if_false]

/-- **An operation that fails changes no look-up of a steady store.** -/
theorem get?_perform_of_error {ws : List Write} {s t : Store} {e : StoreError} (hs : s.Steady)
    (h : s.perform ws = (t, .error e)) (k : String) : t.get? k = s.get? k := by
  cases s with
  | memory m =>
      rcases hs with hm | hm
      · obtain ⟨n, hn, -⟩ := perform_of_never hm ws
        rw [hn] at h
        simp at h
      · rw [perform_of_always hm] at h
        obtain ⟨rfl, -⟩ := Prod.mk.inj h
        rfl
  | file f =>
      rw [perform, f.applyAll_eq ws, f.changeAll_eq ws] at h
      simp only [commit, FileStore.commit] at h
      split at h
      · simp at h
      · obtain ⟨rfl, -⟩ := Prod.mk.inj h
        simp only [get?]
        rw [show f.values = f.committed from hs]

/-- A steady store stays steady whether an operation succeeds or fails. -/
theorem Steady.perform {s : Store} (hs : s.Steady) (ws : List Write) :
    (s.perform ws).1.Steady := by
  cases s with
  | memory m =>
      rcases hs with hm | hm
      · obtain ⟨n, hn, hf⟩ := perform_of_never hm ws
        rw [hn]
        exact .inl hf
      · rw [perform_of_always hm]
        exact .inr hm
  | file f =>
      rw [Store.perform, f.applyAll_eq ws]
      exact FileStore.commit_values _

/-! ### Stores that refuse nothing -/

/-- A store that refuses no change and no commit. -/
def Reliable : Store → Prop
  | memory m => m.faults = .never
  | file f => f.faults = .never ∧ f.place.IsWritable

instance : DecidablePred Reliable
  | memory m => inferInstanceAs (Decidable (m.faults = .never))
  | file f => inferInstanceAs (Decidable (f.faults = .never ∧ f.place.IsWritable))

/-- An operation on a file that can be written to uses one attempt up, and succeeds with it. -/
theorem perform_of_isWritable {f : FileStore} (hnext : f.faults.next.1 = false)
    (hplace : f.place.IsWritable) (ws : List Write) :
    ∃ g : FileStore, (file f).perform ws = (file g, .ok ()) ∧ g.faults = f.faults.next.2 ∧
      g.place.IsWritable := by
  let values := (f.changeAll ws).values
  let place := Place.file (Utf8.encode (FileStore.fileText values))
  have hcommit : FileStore.commit { f with values } =
      ({ place, values, committed := values, faults := f.faults.next.2 }, .ok ()) := by
    simp only [FileStore.commit, hnext, FileStore.writeVerified_of_isWritable hplace, place]
  refine ⟨{ place, values, committed := values, faults := f.faults.next.2 }, ?_, rfl, trivial⟩
  rw [perform, f.applyAll_eq ws, f.changeAll_eq ws]
  simp only [commit, values, hcommit]

/-- **On a reliable store every operation succeeds** and leaves it reliable. -/
theorem Reliable.perform {s : Store} (hs : s.Reliable) (ws : List Write) :
    ∃ t : Store, s.perform ws = (t, .ok ()) ∧ t.Reliable := by
  cases s with
  | memory m =>
      obtain ⟨n, hn, hf⟩ := perform_of_never hs ws
      exact ⟨memory n, hn, hf⟩
  | file f =>
      obtain ⟨hfaults, hplace⟩ := hs
      have hnext : f.faults.next = (false, .never) := by rw [hfaults]; rfl
      obtain ⟨g, hg, hrest, hafter⟩ := perform_of_isWritable (congrArg Prod.fst hnext) hplace ws
      exact ⟨file g, hg, hrest.trans (congrArg Prod.snd hnext), hafter⟩

/-- What an operation on a reliable store leaves is reliable. -/
theorem Reliable.of_perform {s t : Store} (hs : s.Reliable) {ws : List Write}
    {result : Except StoreError Unit} (h : s.perform ws = (t, result)) : t.Reliable := by
  obtain ⟨u, hu, hreliable⟩ := hs.perform ws
  rw [h] at hu
  rwa [(Prod.mk.inj hu).1]

end Store

end Onboarding
