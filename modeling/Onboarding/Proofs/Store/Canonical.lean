import Onboarding.Proofs.Store.Durable

/-!
# One text for each content

The file of a store is written anew by every commit, from the values that are staged then. The
members of its object stand in the order of their keys, so nothing is left in the text of the order
in which they were set, of what they were before, or of keys that were erased. And since a written
text is read back as what was written, two contents never have one text.

## Main results

* `FileStore.fileText_injective`: the text of a file determines its values.
* `FileStore.get?_eq_iff_answers`: what stands under a key is known by the answers for it.
* `FileStore.fileText_eq_iff_answers`: two stores have one text exactly if they answer alike.
-/

namespace Onboarding

/-- What is found under a key is an entry. -/
theorem Entries.mem_of_get? {α : Type} {k : String} {a : α} {l : List (String × α)}
    (h : get? k l = some a) : (k, a) ∈ l := by
  induction l with
  | nil => simp [get?] at h
  | cons e l ih =>
      obtain ⟨j, b⟩ := e
      rw [get?] at h
      split at h
      · rename_i hj
        obtain rfl := Option.some.inj h
        rw [hj]
        exact List.mem_cons_self
      · exact List.mem_cons_of_mem _ (ih h)

/-- Where there are only texts and flags, a text, a flag or nothing stands under a key. -/
theorem Table.IsPlain.get?_cases {t : Table Json} (h : t.IsPlain) (k : String) :
    t.get? k = none ∨ (∃ s, t.get? k = some (.text s)) ∨ ∃ b, t.get? k = some (.bool b) := by
  cases hv : t.get? k with
  | none => exact .inl rfl
  | some v =>
      have hplain : v.IsPlain := h (k, v) (Entries.mem_of_get? hv)
      cases v with
      | text s => exact .inr (.inl ⟨s, rfl⟩)
      | bool b => exact .inr (.inr ⟨b, rfl⟩)
      | null | number | array | object => exact hplain.elim

namespace FileStore

/-- **The text of a file determines its values.** -/
theorem fileText_injective {t u : Table Json} (ht : t.IsPlain) (hu : u.IsPlain)
    (h : fileText t = fileText u) : t = u := by
  rw [← valuesOf_fileText ht, h, valuesOf_fileText hu]

/-- **What stands under a key** of a store of texts and flags is known by the answers for it: asked
for as a text and as a flag, a value is given as one of the two and refused as the other. -/
theorem get?_eq_iff_answers {s t : FileStore} (hs : s.values.IsPlain) (ht : t.values.IsPlain)
    (k : String) : s.values.get? k = t.values.get? k ↔
      s.getText k = t.getText k ∧ s.getFlag k = t.getFlag k := by
  rcases hs.get?_cases k with hk | ⟨a, hk⟩ | ⟨a, hk⟩ <;>
    rcases ht.get?_cases k with hk' | ⟨b, hk'⟩ | ⟨b, hk'⟩ <;>
      simp [getText, getFlag, hk, hk']

/-- A store that is opened where there is no file. -/
def fresh (faults : Faults) : FileStore :=
  { place := .absent, values := .empty, committed := .empty, faults }

theorem openAt_absent : openAt .absent = .ok (fresh .never) := rfl

/-- A store that was opened where there was no file, after any calls, of which any may have failed,
and then a commit that succeeded. -/
def IsWritten (s : FileStore) : Prop :=
  ∃ (faults : Faults) (calls : List StoreCall) (t : FileStore),
    calls.foldl (fun s c => (c.perform s).1) (.file (fresh faults)) = .file t ∧
    t.commit = (s, .ok ())

/-- A store that was written holds texts and flags, and its file has the text for them. -/
theorem IsWritten.readText {s : FileStore} (h : s.IsWritten) :
    s.values.IsPlain ∧ s.place.readText = .ok (fileText s.values) := by
  obtain ⟨faults, calls, t, hcalls, hcommit⟩ := h
  have hdurable := (Journal.durable_opened openAt_absent trivial faults).run calls
  have hnow := Journal.run_now calls (Journal.opened (fresh faults))
  have hplain : t.values.IsPlain := Store.file.inj (hnow.symm.trans hcalls) ▸ hdurable.plain
  obtain ⟨hvalues, -, hread⟩ := commit_of_ok hcommit
  rw [hvalues]
  exact ⟨hplain, hread⟩

/-- **Two stores that were written have the same text exactly if they answer alike** for every key,
whatever was called on either of them. -/
theorem fileText_eq_iff_answers {s t : FileStore} (hs : s.IsWritten) (ht : t.IsWritten) :
    ∃ a b, s.place.readText = .ok a ∧ t.place.readText = .ok b ∧
      (a = b ↔ ∀ k, s.getText k = t.getText k ∧ s.getFlag k = t.getFlag k) := by
  obtain ⟨hplain, hread⟩ := hs.readText
  obtain ⟨hplain', hread'⟩ := ht.readText
  refine ⟨_, _, hread, hread', ?_⟩
  simp only [← get?_eq_iff_answers hplain hplain']
  constructor
  · intro htext k
    rw [fileText_injective hplain hplain' htext]
  · intro hvalues
    rw [Table.ext_get? hvalues]

/-- Texts and flags that were set in another order, over others and beside one that was erased, with
a commit that failed on the way, make the same file; a flag that is set to false makes another than
one that is not set. -/
theorem fileText_eq_iff_answers_of_histories :
    let written (faults : Faults) (calls : List StoreCall) : FileStore :=
      ((Journal.opened (fresh faults)).run calls).now.commit.1
    let short := written .never [.change (.setText "b" "x\n"), .change (.setFlag "a" true)]
    let long := written ⟨[true], false⟩ [.change (.setText "b" "lost"), .commit,
      .change (.setFlag "a" false), .change (.setText "c" "y"), .commit,
      .change (.setFlag "a" true), .change (.erase "c"), .change (.setText "b" "x\n")]
    let unset := written .never [.change (.setText "b" "x\n")]
    short.place.readText = long.place.readText ∧ short.place.readText ≠ unset.place.readText := by
  intro written short long unset
  have hwritten (faults : Faults) (calls : List StoreCall)
      (h : ((Journal.opened (fresh faults)).run calls).now.commit.2 = .ok ()) :
      (written faults calls).IsWritten :=
    ⟨faults, calls, _, Journal.run_now calls (Journal.opened (fresh faults)), Prod.ext rfl h⟩
  have hshort : short.IsWritten := hwritten _ _ rfl
  have hlong : long.IsWritten := hwritten _ _ rfl
  have hunset : unset.IsWritten := hwritten _ _ rfl
  obtain ⟨a, b, ha, hb, hab⟩ := fileText_eq_iff_answers hshort hlong
  obtain ⟨a', c, ha', hc, hac⟩ := fileText_eq_iff_answers hshort hunset
  constructor
  · have hvalues : short.values = long.values := rfl
    have hanswers (k : String) : short.getText k = long.getText k ∧
        short.getFlag k = long.getFlag k := by
      rw [getText, getText, getFlag, getFlag, hvalues]
      exact ⟨rfl, rfl⟩
    rw [ha, hb, hab.mpr hanswers]
  · intro heq
    rw [ha', hc] at heq
    have hflag := (hac.mp (Except.ok.inj heq) "a").2
    exact absurd hflag (by decide +kernel)

end FileStore

end Onboarding
