/-!
# Tables with sorted keys

A table holds one value under each of its keys and lists its entries by increasing key, so the
order in which entries were put in leaves no trace: two tables with the same look-ups are equal.

## Main statements

* `get?_insert`, `get?_erase`, `get?_empty`: look-up after each operation.
* `ext_get?`: tables with equal look-ups are equal.
-/

namespace Onboarding

namespace Entries

/-- The value under `k`. -/
def get? {α : Type} (k : String) : List (String × α) → Option α
  | [] => none
  | (j, a) :: r => if j = k then some a else get? k r

/-- Puts `a` under `k`, keeping the keys in order. -/
def insert {α : Type} (k : String) (a : α) : List (String × α) → List (String × α)
  | [] => [(k, a)]
  | (j, b) :: r =>
    if k < j then (k, a) :: (j, b) :: r
    else if j = k then (k, a) :: r
    else (j, b) :: insert k a r

/-- Drops what stands under `k`. -/
def erase {α : Type} (k : String) (l : List (String × α)) : List (String × α) :=
  l.filter fun e => !(e.1 == k)

/-- Entries by increasing key. -/
abbrev Sorted {α : Type} (l : List (String × α)) : Prop :=
  l.Pairwise fun x y => x.1 < y.1

/-- Enters pairs one after the other; the last of equal keys wins. -/
def ofList {α : Type} (l : List (String × α)) : List (String × α) :=
  l.foldl (fun t e => insert e.1 e.2 t) []

variable {α : Type}

theorem mem_insert {k : String} {a : α} {l : List (String × α)} {e : String × α}
    (h : e ∈ insert k a l) : e = (k, a) ∨ e ∈ l := by
  induction l with
  | nil => simpa [insert] using h
  | cons x r ih =>
    obtain ⟨j, b⟩ := x
    rw [insert] at h
    split at h
    · simpa using h
    · split at h
      · rcases List.mem_cons.1 h with h | h
        · exact .inl h
        · exact .inr (List.mem_cons_of_mem _ h)
      · rcases List.mem_cons.1 h with h | h
        · exact .inr (h ▸ List.mem_cons_self)
        · exact (ih h).imp_right (List.mem_cons_of_mem _)

theorem sorted_insert {k : String} {a : α} {l : List (String × α)} (h : Sorted l) :
    Sorted (insert k a l) := by
  induction l with
  | nil => simp [insert, Sorted]
  | cons x r ih =>
    obtain ⟨j, b⟩ := x
    obtain ⟨hj, hr⟩ := List.pairwise_cons.1 h
    rw [insert]
    split
    · rename_i hk
      refine List.pairwise_cons.2 ⟨fun e he => ?_, h⟩
      rcases List.mem_cons.1 he with rfl | he
      · exact hk
      · exact String.lt_trans hk (hj e he)
    · split
      · rename_i hjk
        exact List.pairwise_cons.2 ⟨fun e he => hjk ▸ hj e he, hr⟩
      · rename_i hk hjk
        refine List.pairwise_cons.2 ⟨fun e he => ?_, ih hr⟩
        rcases mem_insert he with rfl | he
        · exact Std.lt_of_le_of_ne (String.not_lt.1 hk) hjk
        · exact hj e he

theorem sorted_erase {k : String} {l : List (String × α)} (h : Sorted l) : Sorted (erase k l) :=
  h.filter _

theorem sorted_ofList (l : List (String × α)) : Sorted (ofList l) := by
  have go : ∀ (l t : List (String × α)), Sorted t →
      Sorted (l.foldl (fun t e => insert e.1 e.2 t) t) := by
    intro l
    induction l with
    | nil => exact fun _ h => h
    | cons e r ih => exact fun t h => ih _ (sorted_insert h)
  exact go l [] List.Pairwise.nil

theorem get?_insert (k : String) (a : α) (l : List (String × α)) (j : String) :
    get? j (insert k a l) = if k = j then some a else get? j l := by
  induction l with
  | nil => simp [insert, get?]
  | cons x r ih =>
    obtain ⟨i, b⟩ := x
    rw [insert]
    split
    · simp [get?]
    · split
      · rename_i hik
        subst hik
        by_cases h : i = j <;> simp [get?, h]
      · rename_i hik
        rw [get?, get?, ih]
        by_cases hi : i = j
        · subst hi
          simp [Ne.symm hik]
        · simp [hi]

theorem get?_erase (k : String) (l : List (String × α)) (j : String) :
    get? j (erase k l) = if k = j then none else get? j l := by
  induction l with
  | nil => simp [erase, get?]
  | cons x r ih =>
    obtain ⟨i, b⟩ := x
    unfold erase at ih ⊢
    by_cases hik : i = k
    · subst hik
      by_cases hij : i = j <;> simp_all [get?]
    · by_cases hij : i = j
      · subst hij
        simp [get?, hik, Ne.symm hik]
      · simp_all [get?]

theorem get?_eq_none_of_lt {k : String} {l : List (String × α)}
    (h : ∀ e ∈ l, k < e.1) : get? k l = none := by
  induction l with
  | nil => rfl
  | cons x r ih =>
    obtain ⟨i, b⟩ := x
    have hi : k < i := h (i, b) List.mem_cons_self
    have hne : i ≠ k := fun e => String.lt_irrefl k (e ▸ hi)
    simp [get?, hne, ih fun e he => h e (List.mem_cons_of_mem _ he)]

/-- Sorted entries with equal look-ups are equal. -/
theorem eq_of_get?_eq {l m : List (String × α)} (hl : Sorted l) (hm : Sorted m)
    (h : ∀ k, get? k l = get? k m) : l = m := by
  induction l generalizing m with
  | nil =>
    cases m with
    | nil => rfl
    | cons y m => obtain ⟨k, b⟩ := y; simpa [get?] using h k
  | cons x l ih =>
    obtain ⟨i, a⟩ := x
    cases m with
    | nil => simpa [get?] using h i
    | cons y m =>
      obtain ⟨j, b⟩ := y
      obtain ⟨hi, hl'⟩ := List.pairwise_cons.1 hl
      obtain ⟨hj, hm'⟩ := List.pairwise_cons.1 hm
      have key : i = j := by
        by_cases hij : i < j
        · have := h i
          rw [get?_eq_none_of_lt (l := (j, b) :: m)] at this
          · simp [get?] at this
          · intro e he
            rcases List.mem_cons.1 he with rfl | he
            · exact hij
            · exact String.lt_trans hij (hj e he)
        · by_cases hji : j < i
          · have := h j
            rw [get?_eq_none_of_lt (l := (i, a) :: l)] at this
            · simp [get?] at this
            · intro e he
              rcases List.mem_cons.1 he with rfl | he
              · exact hji
              · exact String.lt_trans hji (hi e he)
          · exact String.le_antisymm (String.not_lt.1 hji) (String.not_lt.1 hij)
      subst key
      have hab : a = b := by simpa [get?] using h i
      subst hab
      have tail : ∀ k, get? k l = get? k m := by
        intro k
        by_cases hk : i = k
        · subst hk
          rw [get?_eq_none_of_lt hi, get?_eq_none_of_lt hj]
        · simpa [get?, hk] using h k
      rw [ih hl' hm' tail]

end Entries

/-- One value under each key, listed by increasing key. -/
structure Table (α : Type) where
  entries : List (String × α)
  sorted : Entries.Sorted entries

namespace Table

variable {α : Type}

instance [DecidableEq α] : DecidableEq (Table α) := fun s t =>
  decidable_of_iff (s.entries = t.entries) ⟨fun h => by cases s; cases t; simp_all, congrArg _⟩

def empty : Table α := ⟨[], List.Pairwise.nil⟩

instance : Inhabited (Table α) := ⟨empty⟩

/-- The last of equal keys wins. -/
def ofList (l : List (String × α)) : Table α := ⟨Entries.ofList l, Entries.sorted_ofList l⟩

def get? (t : Table α) (k : String) : Option α := Entries.get? k t.entries

def insert (t : Table α) (k : String) (a : α) : Table α :=
  ⟨Entries.insert k a t.entries, Entries.sorted_insert t.sorted⟩

def erase (t : Table α) (k : String) : Table α :=
  ⟨Entries.erase k t.entries, Entries.sorted_erase t.sorted⟩

def isEmpty (t : Table α) : Bool := t.entries.isEmpty

@[simp] theorem get?_empty (k : String) : (empty : Table α).get? k = none := rfl

theorem get?_insert (t : Table α) (k : String) (a : α) (j : String) :
    (t.insert k a).get? j = if k = j then some a else t.get? j :=
  Entries.get?_insert k a t.entries j

theorem get?_erase (t : Table α) (k j : String) :
    (t.erase k).get? j = if k = j then none else t.get? j :=
  Entries.get?_erase k t.entries j

/-- A table is known by its look-ups. -/
theorem ext_get? {s t : Table α} (h : ∀ k, s.get? k = t.get? k) : s = t := by
  obtain ⟨l, hl⟩ := s
  obtain ⟨m, hm⟩ := t
  have := Entries.eq_of_get?_eq hl hm h
  subst this
  rfl

end Table

end Onboarding
