import Onboarding.Text.Cut

/-!
# Where texts are cut

A text is cut at the first occurrence of a word, and the part before the cut holds no occurrence.
For a word whose first character does not come again in it, the converse holds as well: two
occurrences do not overlap, so a part that holds none is followed by the first one. A cut at the
last occurrence of a character leaves none behind it, and a cut at every occurrence leaves pieces
without that character.

## Main results

* `Text.cutAtWord_append`: a text is cut behind a part that does not hold the word.
* `Text.cutAtWord_eq_none_iff`, `Text.cutAtWord_eq_some_iff`: the cut is at the first occurrence.
* `Text.cutAtLast_eq_some_iff`: the cut is at the last occurrence of the character.
* `Text.not_mem_of_mem_pieces`: no piece holds the mark.
-/

namespace Onboarding.Text

/-! ### Words -/

section

variable {m : Char} {v : List Char}

/-- What stands before the cut, the word and what stands behind it are the text. -/
theorem eq_of_cutAtWord {w cs before after : List Char} (h : cutAtWord w cs = some (before, after)) :
    cs = before ++ (w ++ after) := by
  induction cs generalizing before with
  | nil =>
      rw [cutAtWord] at h
      split at h
      · rename_i hw
        obtain ⟨rfl, rfl⟩ := Prod.mk.inj (Option.some.inj h)
        rw [List.isEmpty_iff.mp hw]
        rfl
      · simp at h
  | cons c r ih =>
      rw [cutAtWord] at h
      split at h
      · rename_i hstart
        obtain ⟨rfl, rfl⟩ := Prod.mk.inj (Option.some.inj h)
        obtain ⟨u, hu⟩ := List.isPrefixOf_iff_prefix.mp hstart
        rw [← hu, List.drop_left, List.nil_append]
      · obtain ⟨⟨p, q⟩, hcut, heq⟩ := Option.map_eq_some_iff.mp h
        obtain ⟨rfl, rfl⟩ := Prod.mk.inj heq
        rw [ih hcut, List.cons_append]

/-- The part before the cut does not hold the word. -/
theorem not_infix_of_cutAtWord {cs before after : List Char}
    (h : cutAtWord (m :: v) cs = some (before, after)) : ¬m :: v <:+: before := by
  induction cs generalizing before with
  | nil => simp [cutAtWord] at h
  | cons c r ih =>
      rw [cutAtWord] at h
      split at h
      · obtain ⟨rfl, -⟩ := Prod.mk.inj (Option.some.inj h)
        simp
      · rename_i hstart
        obtain ⟨⟨p, q⟩, hcut, heq⟩ := Option.map_eq_some_iff.mp h
        obtain ⟨rfl, rfl⟩ := Prod.mk.inj heq
        rw [List.infix_cons_iff]
        rintro (⟨u, hu⟩ | hword)
        · refine hstart (List.isPrefixOf_iff_prefix.mpr ⟨u ++ (m :: v ++ q), ?_⟩)
          rw [eq_of_cutAtWord hcut, ← List.append_assoc, hu, List.cons_append]
        · exact ih hcut hword

/-- A word whose first character does not come again does not begin in a part that does not hold
it. -/
theorem not_prefix_append (hm : m ∉ v) {c : Char} {p : List Char} (hp : ¬m :: v <:+: c :: p)
    (r : List Char) : ¬m :: v <+: c :: (p ++ (m :: v ++ r)) := by
  rintro ⟨u, hu⟩
  obtain ⟨rfl, htail⟩ := List.cons.inj hu
  rcases List.append_eq_append_iff.mp htail with ⟨q, rfl, -⟩ | ⟨q, rfl, hq⟩
  · exact hp ⟨[], q, rfl⟩
  · cases q with
    | nil => exact hp ⟨[], [], by simp⟩
    | cons d q =>
        -- the word would begin again inside itself
        obtain ⟨rfl, -⟩ := List.cons.inj hq
        exact hm (by simp)

/-- **A text is cut behind a part that does not hold the word.** -/
theorem cutAtWord_append (hm : m ∉ v) {p : List Char} (hp : ¬m :: v <:+: p) (r : List Char) :
    cutAtWord (m :: v) (p ++ (m :: v ++ r)) = some (p, r) := by
  induction p with
  | nil => simp [cutAtWord]
  | cons c p ih =>
      have hrest : ¬m :: v <:+: p := fun h => hp (h.trans (List.suffix_cons c p).isInfix)
      have hstart : (m :: v).isPrefixOf (c :: (p ++ (m :: v ++ r))) = false := by
        rw [Bool.eq_false_iff, ne_eq, List.isPrefixOf_iff_prefix]
        exact not_prefix_append hm hp r
      rw [List.cons_append, cutAtWord, hstart, ih hrest]
      rfl

/-- A text without the word is not cut. -/
theorem cutAtWord_eq_none_iff {cs : List Char} : cutAtWord (m :: v) cs = none ↔ ¬m :: v <:+: cs := by
  constructor
  · rintro hnone ⟨p, r, rfl⟩
    induction p with
    | nil => simp [cutAtWord] at hnone
    | cons c p ih =>
        rw [List.cons_append, List.cons_append, cutAtWord] at hnone
        split at hnone
        · simp at hnone
        · exact ih (Option.map_eq_none_iff.mp hnone)
  · intro hcs
    refine Option.eq_none_iff_forall_ne_some.mpr ?_
    rintro ⟨p, r⟩ hcut
    exact hcs ⟨p, r, by rw [List.append_assoc, ← eq_of_cutAtWord hcut]⟩

/-- **The cut is at the first occurrence of the word.** -/
theorem cutAtWord_eq_some_iff (hm : m ∉ v) {cs p r : List Char} :
    cutAtWord (m :: v) cs = some (p, r) ↔ cs = p ++ (m :: v ++ r) ∧ ¬m :: v <:+: p := by
  constructor
  · intro hcut
    exact ⟨eq_of_cutAtWord hcut, not_infix_of_cutAtWord hcut⟩
  · rintro ⟨rfl, hp⟩
    exact cutAtWord_append hm hp r

end

/-! ### Characters -/

/-- A text that holds the character is cut. -/
theorem not_mem_of_cutAtLast {m : Char} {cs : List Char} (h : cutAtLast m cs = none) : m ∉ cs := by
  induction cs with
  | nil => simp
  | cons c cs ih =>
      rw [cutAtLast] at h
      split at h
      · simp at h
      · rename_i hlater
        have hne : m ≠ c := by
          rintro rfl
          simp at h
        exact fun hm => (List.mem_cons.mp hm).elim hne (ih hlater)

/-- **The cut is at the last occurrence of the character.** -/
theorem cutAtLast_eq_some_iff {m : Char} {cs p r : List Char} :
    cutAtLast m cs = some (p, r) ↔ cs = p ++ m :: r ∧ m ∉ r := by
  constructor
  · intro hcut
    induction cs generalizing p with
    | nil => simp [cutAtLast] at hcut
    | cons c cs ih =>
        rw [cutAtLast] at hcut
        split at hcut
        · rename_i q t hlater
          obtain ⟨rfl, rfl⟩ := Prod.mk.inj (Option.some.inj hcut)
          obtain ⟨rfl, hr⟩ := ih hlater
          exact ⟨rfl, hr⟩
        · rename_i hnone
          split at hcut
          · rename_i hc
            obtain ⟨rfl, rfl⟩ := Prod.mk.inj (Option.some.inj hcut)
            exact ⟨by rw [hc, List.nil_append], not_mem_of_cutAtLast hnone⟩
          · simp at hcut
  · rintro ⟨rfl, hr⟩
    exact cutAtLast_append hr p

/-! ### Pieces -/

/-- **No piece holds the mark.** -/
theorem not_mem_of_mem_pieces {m : Char} {p cs : List Char} (h : p ∈ pieces m cs) : m ∉ p := by
  induction cs generalizing p with
  | nil => simp_all [pieces]
  | cons c r ih =>
      rw [pieces] at h
      split at h
      · rcases List.mem_cons.mp h with rfl | h
        · simp
        · exact ih h
      · rename_i hc
        split at h
        · obtain rfl := List.mem_singleton.mp h
          simpa using Ne.symm hc
        · rename_i q qs hpieces
          rcases List.mem_cons.mp h with rfl | h
          · have hq : m ∉ q := ih (hpieces ▸ List.mem_cons_self)
            simpa [hq] using Ne.symm hc
          · exact ih (hpieces ▸ List.mem_cons_of_mem q h)

end Onboarding.Text
