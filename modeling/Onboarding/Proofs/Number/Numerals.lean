import Onboarding.Number.Numeral

/-!
# What numerals spell

A numeral is said here without a reader: at least one decimal digit, with or without a plus sign in
front, and the number that the digits make. The reader, which gives up as soon as a number passes
its limit, reads exactly the numerals of the numbers up to the limit.

## Main results

* `Numeral.parse?_eq_some_iff`: what is read is what is spelled, up to the limit.
* `Numeral.spells_text`: the numeral that is written for a number spells it.
-/

namespace Onboarding.Numeral

/-- Goes on with the digits of a number in a base, the highest digit first. -/
def extended (radix n : Nat) (ds : List Nat) : Nat :=
  ds.foldl (fun n d => radix * n + d) n

/-- The number that digits make in a base, the highest digit first. -/
def ofDigits (radix : Nat) (ds : List Nat) : Nat :=
  extended radix 0 ds

/-- At least one digit, with the values of the digits. -/
def SpellsDigits (t : List Char) (ds : List Nat) : Prop :=
  ds ≠ [] ∧ t.map digit? = ds.map some

/-- A numeral, with the number that it spells. -/
inductive Spells : List Char → Nat → Prop where
  | plain {t : List Char} {ds : List Nat} (ht : SpellsDigits t ds) : Spells t (ofDigits 10 ds)
  | signed {t : List Char} {ds : List Nat} (ht : SpellsDigits t ds) :
      Spells ('+' :: t) (ofDigits 10 ds)

/-! ### Reading -/

/-- Further digits make no number smaller. -/
theorem le_extended {radix : Nat} (hradix : 0 < radix) (n : Nat) (ds : List Nat) :
    n ≤ extended radix n ds := by
  induction ds generalizing n with
  | nil => exact Nat.le_refl n
  | cons d ds ih =>
      have hstep : n ≤ radix * n + d := Nat.le_add_right_of_le (Nat.le_mul_of_pos_left n hradix)
      exact Nat.le_trans hstep (ih (radix * n + d))

/-- Digits are read on exactly if the number that they make stays within the limit. -/
theorem extend?_eq_some_iff {limit n m : Nat} (hn : n ≤ limit) {cs : List Char} :
    extend? limit n cs = some m ↔
      ∃ ds : List Nat, cs.map digit? = ds.map some ∧ extended 10 n ds = m ∧ m ≤ limit := by
  induction cs generalizing n with
  | nil =>
      rw [extend?, Option.some.injEq]
      constructor
      · rintro rfl
        exact ⟨[], rfl, rfl, hn⟩
      · rintro ⟨ds, hds, hm, -⟩
        obtain rfl : ds = [] := by simpa using hds.symm
        exact hm
  | cons c r ih =>
      rw [extend?]
      constructor
      · intro h
        split at h
        · rename_i d hd
          split at h
          · rename_i hle
            obtain ⟨ds, hds, hm, hlimit⟩ := (ih hle).mp h
            exact ⟨d :: ds, by rw [List.map_cons, hd, hds, List.map_cons], hm, hlimit⟩
          · simp at h
        · simp at h
      · rintro ⟨ds, hds, hm, hlimit⟩
        cases ds with
        | nil => simp at hds
        | cons d ds =>
            obtain ⟨hd, hrest⟩ := List.cons.inj hds
            -- the number read so far is no greater than the whole one
            have hle : 10 * n + d ≤ limit :=
              Nat.le_trans (le_extended (by decide) _ ds) (Nat.le_trans (Nat.le_of_eq hm) hlimit)
            simp only [hd, if_pos hle]
            exact (ih hle).mpr ⟨ds, hrest, hm, hlimit⟩

theorem digits?_eq_some_iff {limit m : Nat} {cs : List Char} :
    digits? limit cs = some m ↔
      ∃ ds, SpellsDigits cs ds ∧ ofDigits 10 ds = m ∧ m ≤ limit := by
  cases cs with
  | nil =>
      refine iff_of_false (by simp [digits?]) ?_
      rintro ⟨ds, ⟨hne, hds⟩, -⟩
      exact hne (by simpa using hds.symm)
  | cons c r =>
      rw [digits?, extend?_eq_some_iff (Nat.zero_le limit)]
      · constructor
        · rintro ⟨ds, hds, hm, hlimit⟩
          refine ⟨ds, ⟨?_, hds⟩, hm, hlimit⟩
          rintro rfl
          simp at hds
        · rintro ⟨ds, ⟨-, hds⟩, hm, hlimit⟩
          exact ⟨ds, hds, hm, hlimit⟩
      · simp

/-- No digits start with a plus sign. -/
theorem not_spellsDigits_plus {r : List Char} {ds : List Nat} : ¬SpellsDigits ('+' :: r) ds := by
  rintro ⟨hne, hds⟩
  cases ds with
  | nil => exact hne rfl
  | cons d ds =>
      have hplus : digit? '+' = some d := (List.cons.inj hds).1
      simp [digit?] at hplus

/-- **What is read is what is spelled**, if it is within the limit. -/
theorem parse?_eq_some_iff {limit m : Nat} {cs : List Char} :
    parse? limit cs = some m ↔ Spells cs m ∧ m ≤ limit := by
  rw [parse?.eq_def]
  split
  · rename_i r
    rw [digits?_eq_some_iff]
    constructor
    · rintro ⟨ds, hds, rfl, hlimit⟩
      exact ⟨.signed hds, hlimit⟩
    · rintro ⟨hspells, hlimit⟩
      cases hspells with
      | plain ht => exact absurd ht not_spellsDigits_plus
      | signed ht => exact ⟨_, ht, rfl, hlimit⟩
  · rename_i hsign
    rw [digits?_eq_some_iff]
    constructor
    · rintro ⟨ds, hds, rfl, hlimit⟩
      exact ⟨.plain hds, hlimit⟩
    · rintro ⟨hspells, hlimit⟩
      cases hspells with
      | plain ht => exact ⟨_, ht, rfl, hlimit⟩
      | signed ht => exact absurd rfl (hsign _)

/-- A numeral is read exactly if it spells a number within the limit. -/
theorem isSome_parse?_iff {limit : Nat} {cs : List Char} :
    (parse? limit cs).isSome = true ↔ ∃ n, Spells cs n ∧ n ≤ limit := by
  simp only [Option.isSome_iff_exists, parse?_eq_some_iff]

/-! ### Writing -/

/-- The sign of a digit is read as the digit. -/
theorem digit?_digitChar {d : Nat} (hd : d < 10) : digit? d.digitChar = some d := by
  have hall : ∀ d < 10, digit? (Nat.digitChar d) = some d := by decide
  exact hall d hd

/-- The signs that are written for a number are the digits that make it. -/
theorem exists_spellsDigits_text (n : Nat) :
    ∃ ds, SpellsDigits (text n) ds ∧ ofDigits 10 ds = n := by
  induction n using Nat.strongRecOn with
  | ind n ih =>
      by_cases hn : n < 10
      · refine ⟨[n], ⟨by simp, ?_⟩, by simp [ofDigits, extended]⟩
        rw [text, Nat.toDigits_of_lt_base hn, List.map_singleton, digit?_digitChar hn]
        rfl
      · obtain ⟨ds, ⟨-, hds⟩, hvalue⟩ := ih (n / 10) (by omega)
        rw [text] at hds
        refine ⟨ds ++ [n % 10], ⟨by simp, ?_⟩, ?_⟩
        · rw [text, Nat.toDigits_of_base_le (by decide) (by omega), List.map_append, hds,
            List.map_singleton, digit?_digitChar (Nat.mod_lt n (by decide)), List.map_append]
          rfl
        · rw [ofDigits, extended] at hvalue
          rw [ofDigits, extended, List.foldl_append, hvalue]
          exact Nat.div_add_mod n 10

/-- **The numeral that is written for a number spells it.** -/
theorem spells_text (n : Nat) : Spells (text n) n := by
  obtain ⟨ds, hds, hvalue⟩ := exists_spellsDigits_text n
  have hspells : Spells (text n) (ofDigits 10 ds) := .plain hds
  rwa [hvalue] at hspells

/-- A numeral has no signs but digits and a plus sign. -/
theorem Spells.mem_cases {cs : List Char} {n : Nat} (h : Spells cs n) {c : Char} (hc : c ∈ cs) :
    c = '+' ∨ (digit? c).isSome = true := by
  have hdigit : ∀ {t : List Char} {ds : List Nat}, SpellsDigits t ds → c ∈ t →
      (digit? c).isSome = true := by
    rintro t ds ⟨-, hds⟩ hmem
    have hvalue : digit? c ∈ ds.map some := hds ▸ List.mem_map_of_mem hmem
    obtain ⟨d, -, hd⟩ := List.mem_map.mp hvalue
    rw [← hd, Option.isSome_some]
  cases h with
  | plain ht => exact .inr (hdigit ht hc)
  | signed ht =>
      rcases List.mem_cons.mp hc with rfl | hmem
      · exact .inl rfl
      · exact .inr (hdigit ht hmem)

end Onboarding.Numeral
