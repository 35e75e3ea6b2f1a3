import Mathlib.Data.List.DropRight
import Onboarding.Text.Blank

/-!
# Trimming as a normal form

What is left of a text when it is trimmed has no blank at either end, and nothing is trimmed of a
text that has none there. Trimming does not see the blanks that are put around a text. So the texts
with no blank at either end stand for all others, one for all that differ in the blanks around them.

## Main results

* `Text.trimmed_trim`, `Text.Trimmed.trim_eq`: what is left has no blank at either end, and nothing
  is trimmed of such a text.
* `Text.trim_surrounded`: blanks around a text make no difference.
* `Text.trim_eq_nil_iff`: nothing is left of the blank texts, and of no others.
-/

namespace Onboarding.Text

/-- A text of blanks only. -/
def AllBlank (cs : List Char) : Prop :=
  ∀ c ∈ cs, isBlank c = true

-- by the characters of the text: there is also an instance that goes through all characters
instance : DecidablePred AllBlank :=
  fun cs => List.decidableBAll (fun c => isBlank c = true) cs

/-- A text with no blank at either end. -/
structure Trimmed (cs : List Char) : Prop where
  head : ∀ c ∈ cs.head?, isBlank c = false
  last : ∀ c ∈ cs.getLast?, isBlank c = false

theorem AllBlank.reverse {cs : List Char} (h : AllBlank cs) : AllBlank cs.reverse :=
  fun c hc => h c (List.mem_reverse.mp hc)

/-! ### One end -/

/-- Trimming one end is trimming the other end of the text turned round. -/
theorem trimEnd_eq_reverse (cs : List Char) : trimEnd cs = (trimStart cs.reverse).reverse :=
  rfl

/-- What is left of a text whose start is trimmed, and the blanks before it. -/
theorem exists_trimStart (cs : List Char) : ∃ w, AllBlank w ∧ cs = w ++ trimStart cs :=
  ⟨cs.takeWhile isBlank, fun _ hc => List.mem_takeWhile_imp hc,
    (List.takeWhile_append_dropWhile ..).symm⟩

/-- What is left of a text whose end is trimmed, and the blanks behind it. -/
theorem exists_trimEnd (cs : List Char) : ∃ v, AllBlank v ∧ cs = trimEnd cs ++ v := by
  obtain ⟨w, hw, heq⟩ := exists_trimStart cs.reverse
  refine ⟨w.reverse, hw.reverse, ?_⟩
  rw [trimEnd_eq_reverse, ← List.reverse_append, ← heq, List.reverse_reverse]

/-- Blanks before a text make no difference to what is left of it. -/
theorem trimStart_append {w : List Char} (hw : AllBlank w) (cs : List Char) :
    trimStart (w ++ cs) = trimStart cs :=
  List.dropWhile_append_of_pos hw

/-- Blanks behind a text make no difference to what is left of it. -/
theorem trimEnd_append {v : List Char} (hv : AllBlank v) (cs : List Char) :
    trimEnd (cs ++ v) = trimEnd cs := by
  rw [trimEnd_eq_reverse, List.reverse_append, trimStart_append hv.reverse, trimEnd_eq_reverse]

theorem trimStart_eq_nil_iff {cs : List Char} : trimStart cs = [] ↔ AllBlank cs :=
  List.dropWhile_eq_nil_iff

theorem trimEnd_eq_nil_iff {cs : List Char} : trimEnd cs = [] ↔ AllBlank cs :=
  List.rdropWhile_eq_nil_iff

/-- Behind a part that is not blank, the start of a text is trimmed as that of the part. -/
theorem trimStart_append_of_not_blank {cs : List Char} (h : ¬AllBlank cs) (v : List Char) :
    trimStart (cs ++ v) = trimStart cs ++ v := by
  have hne : ¬(cs.dropWhile isBlank).isEmpty = true :=
    fun hempty => h (trimStart_eq_nil_iff.mp (List.isEmpty_iff.mp hempty))
  rw [trimStart, List.dropWhile_append, if_neg hne, trimStart]

/-- Before a part that is not blank, the end of a text is trimmed as that of the part. -/
theorem trimEnd_append_of_not_blank {cs : List Char} (h : ¬AllBlank cs) (w : List Char) :
    trimEnd (w ++ cs) = w ++ trimEnd cs := by
  have hreverse : ¬AllBlank cs.reverse := fun hblank => h (by simpa using hblank.reverse)
  rw [trimEnd_eq_reverse, List.reverse_append, trimStart_append_of_not_blank hreverse,
    List.reverse_append, List.reverse_reverse, trimEnd_eq_reverse]

/-! ### Both ends -/

/-- **What is left of a text has no blank at either end.** -/
theorem trimmed_trim (cs : List Char) : Trimmed (trim cs) where
  head := by
    intro c hc
    obtain ⟨v, -, heq⟩ := exists_trimEnd (trimStart cs)
    refine head_trimStart_not_blank cs c ?_
    rw [heq, List.head?_append, show (trimEnd (trimStart cs)).head? = some c from hc]
    rfl
  last := by
    intro c hc
    rw [trim, trimEnd_eq_reverse, List.getLast?_reverse] at hc
    exact head_trimStart_not_blank _ c hc

/-- Nothing is trimmed of a text with no blank at either end. -/
theorem Trimmed.trim_eq {cs : List Char} (h : Trimmed cs) : trim cs = cs := by
  rw [trim, trimStart_eq_self h.head, trimEnd_eq_self h.last]

/-- Nothing is trimmed of what was trimmed. -/
theorem trim_trim (cs : List Char) : trim (trim cs) = trim cs :=
  (trimmed_trim cs).trim_eq

/-- **Nothing is left of a blank text**, and something of any other. -/
theorem trim_eq_nil_iff {cs : List Char} : trim cs = [] ↔ AllBlank cs := by
  obtain ⟨w, hw, heq⟩ := exists_trimStart cs
  rw [trim, trimEnd_eq_nil_iff, ← trimStart_eq_nil_iff, ← trimStart_eq_nil_iff]
  constructor
  · intro h
    rw [← trimStart_append hw, ← heq] at h
    exact h
  · intro h
    rw [h, trimStart_nil]

/-- Nothing comes into a text when it is trimmed. -/
theorem mem_of_mem_trim {cs : List Char} {c : Char} (h : c ∈ trim cs) : c ∈ cs := by
  obtain ⟨w, -, hw⟩ := exists_trimStart cs
  obtain ⟨v, -, hv⟩ := exists_trimEnd (trimStart cs)
  rw [hw, hv]
  exact List.mem_append_right w (List.mem_append_left v h)

/-- **Blanks around a text make no difference** to what is left of it. -/
theorem trim_surrounded {w v : List Char} (hw : AllBlank w) (hv : AllBlank v) (cs : List Char) :
    trim (w ++ cs ++ v) = trim cs := by
  by_cases h : AllBlank cs
  · have hall : AllBlank (w ++ cs ++ v) := by
      intro c hc
      rcases List.mem_append.mp hc with hc | hc
      · exact (List.mem_append.mp hc).elim (hw c) (h c)
      · exact hv c hc
    rw [trim_eq_nil_iff.mpr hall, trim_eq_nil_iff.mpr h]
  · rw [trim, List.append_assoc, trimStart_append hw, trimStart_append_of_not_blank h,
      trimEnd_append hv, trim]

end Onboarding.Text
