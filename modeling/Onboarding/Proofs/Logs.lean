import Mathlib.Data.List.Induction

/-!
# Logs

A log is a list that grows at its end. What is said of a log is mostly said of each entry and the
entries before it (`Throughout`), and it then holds of the longer log if it holds of the new entry.
Some entries open something that others close; it is pending (`Pending`) from the one to the other.

## Main results

* `Throughout.concat`, `Throughout.append`: a log that grows.
* `pending_concat`: what a new entry leaves pending.
-/

namespace Onboarding

variable {α : Type}

/-- Every entry of a log is as the entries before it demand. -/
def Throughout (P : List α → α → Prop) (log : List α) : Prop :=
  ∀ earlier x later, log = earlier ++ x :: later → P earlier x

namespace Throughout

variable {P Q : List α → α → Prop} {log : List α} {x : α}

theorem nil : Throughout P [] := by
  intro earlier x later h
  simp at h

theorem mono (h : Throughout P log) (hPQ : ∀ earlier x, P earlier x → Q earlier x) :
    Throughout Q log :=
  fun earlier x later hlog => hPQ earlier x (h earlier x later hlog)

/-- A log of which every entry holds goes on so with an entry that holds. -/
theorem concat (h : Throughout P log) (hx : P log x) : Throughout P (log ++ [x]) := by
  intro earlier y later heq
  rcases List.eq_nil_or_concat later with rfl | ⟨rest, z, rfl⟩
  · obtain ⟨rfl, hyx⟩ := List.append_inj' heq rfl
    obtain rfl : x = y := List.singleton_inj.mp hyx
    exact hx
  · have hsplit : log ++ [x] = (earlier ++ y :: rest) ++ [z] := by simpa using heq
    exact h earlier y rest (List.append_inj' hsplit rfl).1

/-- A log goes on so with entries that hold one after the other. -/
theorem append {added : List α} (h : Throughout P log)
    (hadded : Throughout (fun earlier x => P (log ++ earlier) x) added) :
    Throughout P (log ++ added) := by
  induction added using List.reverseRecOn with
  | nil => rwa [List.append_nil]
  | append_singleton added x ih =>
      rw [← List.append_assoc]
      refine concat (ih ?_) (hadded added x [] rfl)
      intro earlier y later heq
      exact hadded earlier y (later ++ [x]) (by rw [heq]; simp)

end Throughout

/-- Something was opened that nothing has closed since. -/
def Pending (opens closes : α → Bool) (log : List α) : Prop :=
  ∃ earlier x later, log = earlier ++ x :: later ∧ opens x = true ∧ ∀ y ∈ later, closes y = false

section Pending

variable {opens closes : α → Bool} {log : List α}

theorem not_pending_nil : ¬Pending opens closes [] := by
  rintro ⟨earlier, x, later, h, -⟩
  simp at h

/-- After one more entry something is pending if the entry opens it, or does not close it. -/
theorem pending_concat {x : α} :
    Pending opens closes (log ++ [x]) ↔
      opens x = true ∨ Pending opens closes log ∧ closes x = false := by
  constructor
  · rintro ⟨earlier, y, later, heq, hopens, hlater⟩
    rcases List.eq_nil_or_concat later with rfl | ⟨rest, z, rfl⟩
    · obtain ⟨rfl, hyx⟩ := List.append_inj' heq rfl
      obtain rfl : x = y := List.singleton_inj.mp hyx
      exact .inl hopens
    · have hsplit : log ++ [x] = (earlier ++ y :: rest) ++ [z] := by simpa using heq
      obtain ⟨hlog, hzx⟩ := List.append_inj' hsplit rfl
      obtain rfl : x = z := List.singleton_inj.mp hzx
      refine .inr ⟨⟨earlier, y, rest, hlog, hopens, ?_⟩, hlater x (by simp)⟩
      intro w hw
      exact hlater w (by simp [hw])
  · rintro (hopens | ⟨⟨earlier, y, later, rfl, hopens, hlater⟩, hcloses⟩)
    · exact ⟨log, x, [], rfl, hopens, by simp⟩
    · refine ⟨earlier, y, later ++ [x], by simp, hopens, ?_⟩
      simpa [or_imp, forall_and] using ⟨hlater, hcloses⟩

/-- After entries that open nothing, what was pending is pending unless one of them closes it. -/
theorem pending_append {added : List α} (h : ∀ x ∈ added, opens x = false) :
    Pending opens closes (log ++ added) ↔
      Pending opens closes log ∧ ∀ x ∈ added, closes x = false := by
  induction added using List.reverseRecOn with
  | nil => simp
  | append_singleton added x ih =>
      have hadded : ∀ y ∈ added, opens y = false := fun y hy => h y (by simp [hy])
      rw [← List.append_assoc, pending_concat, ih hadded]
      simp [h x (by simp), or_imp, forall_and, and_assoc]

/-- Entries that open and close nothing leave pending what was pending. -/
theorem pending_append_of_neutral {added : List α}
    (h : ∀ x ∈ added, opens x = false ∧ closes x = false) :
    Pending opens closes (log ++ added) ↔ Pending opens closes log := by
  rw [pending_append fun x hx => (h x hx).1]
  exact and_iff_left fun x hx => (h x hx).2

end Pending

end Onboarding
