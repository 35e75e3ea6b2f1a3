/-!
# Cutting a text at a mark

A mark is a character or a word. `cutAt` and `cutAtLast` give what stands before and after the first
or the last occurrence of a character, `cutAtWord` those of a word, and `pieces` all parts between
the occurrences of a character.

## Main statements

* `cutAtLast_append`: a mark that the part behind it does not hold is where the cut falls.
-/

namespace Onboarding.Text

/-- What stands before and after the first `m`. -/
def cutAt (m : Char) : List Char → Option (List Char × List Char)
  | [] => none
  | c :: r =>
    if c = m then some ([], r)
    else (cutAt m r).map fun (before, after) => (c :: before, after)

/-- What stands before and after the last `m`. -/
def cutAtLast (m : Char) : List Char → Option (List Char × List Char)
  | [] => none
  | c :: r =>
    match cutAtLast m r with
    | some (before, after) => some (c :: before, after)
    | none => if c = m then some ([], r) else none

/-- What stands before and after the first occurrence of the word `w`. -/
def cutAtWord (w : List Char) : List Char → Option (List Char × List Char)
  | [] => if w.isEmpty then some ([], []) else none
  | c :: r =>
    if w.isPrefixOf (c :: r) then some ([], (c :: r).drop w.length)
    else (cutAtWord w r).map fun (before, after) => (c :: before, after)

/-- The parts between the occurrences of `m`; a text without `m` is its only part. -/
def pieces (m : Char) : List Char → List (List Char)
  | [] => [[]]
  | c :: r =>
    if c = m then [] :: pieces m r
    else
      match pieces m r with
      | [] => [[c]]
      | p :: ps => (c :: p) :: ps

/-- Whether the word `w` occurs. -/
def hasWord (w cs : List Char) : Bool :=
  (cutAtWord w cs).isSome

theorem cutAtLast_eq_none {m : Char} {cs : List Char} (h : m ∉ cs) : cutAtLast m cs = none := by
  induction cs with
  | nil => rfl
  | cons c r ih =>
    simp only [List.mem_cons, not_or] at h
    simp [cutAtLast, Ne.symm h.1, ih h.2]

theorem cutAtLast_append {m : Char} {r : List Char} (h : m ∉ r) (p : List Char) :
    cutAtLast m (p ++ m :: r) = some (p, r) := by
  induction p with
  | nil => simp [cutAtLast, cutAtLast_eq_none h]
  | cons c p ih => simp [cutAtLast, ih]

end Onboarding.Text
