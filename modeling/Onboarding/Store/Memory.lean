import Onboarding.Store.Basic
import Onboarding.Table

/-!
# The store in memory

Every change takes effect at once. The store remembers which keys were set, in order, and how often
it was committed; a schedule says which of the coming changes and commits fail.

## Main statements

* `get?_change_setText`, `get?_change_setFlag`, `get?_change_erase`: look-up after a change.
-/

namespace Onboarding

/-- What stands under a key. -/
inductive StoredValue where
  | text (value : String)
  | flag (value : Bool)
  deriving Repr, DecidableEq

/-- A store that forgets everything when the device is switched off. -/
structure MemoryStore where
  values : Table StoredValue := .empty
  /-- The keys that were set, oldest first. -/
  writeLog : List String := []
  commits : Nat := 0
  faults : Faults := .never

namespace MemoryStore

/-- A store with nothing in it. -/
def empty : MemoryStore := {}

/-- The error of a change that the schedule lets fail. -/
def refused : StoreError :=
  .host ⟨.other, some "simulated write failure"⟩

/-- The text under a key. -/
def getText (s : MemoryStore) (key : String) : Except StoreError (Option String) :=
  match s.values.get? key with
  | some (.text t) => .ok (some t)
  | some (.flag _) => .error (.notText key)
  | none => .ok none

/-- The flag under a key. -/
def getFlag (s : MemoryStore) (key : String) : Except StoreError (Option Bool) :=
  match s.values.get? key with
  | some (.flag b) => .ok (some b)
  | some (.text _) => .error (.notFlag key)
  | none => .ok none

/-- The effect of a change that does not fail. -/
def change (s : MemoryStore) : Write → MemoryStore
  | .setText k v =>
    { s with values := s.values.insert k (.text v), writeLog := s.writeLog ++ [k] }
  | .setFlag k b =>
    { s with values := s.values.insert k (.flag b), writeLog := s.writeLog ++ [k] }
  | .erase k => { s with values := s.values.erase k }

/-- Makes a change, unless it is one that fails. -/
def apply (s : MemoryStore) (w : Write) : MemoryStore × Except StoreError Unit :=
  let (fails, faults) := s.faults.next
  let s := { s with faults }
  if fails then (s, .error refused) else (s.change w, .ok ())

/-- Counts a commit; there is nothing to write. -/
def commit (s : MemoryStore) : MemoryStore × Except StoreError Unit :=
  let (fails, faults) := s.faults.next
  let s := { s with faults }
  if fails then (s, .error refused) else ({ s with commits := s.commits + 1 }, .ok ())

theorem get?_change_setText (s : MemoryStore) (k v j : String) :
    (s.change (.setText k v)).values.get? j =
      if k = j then some (.text v) else s.values.get? j :=
  s.values.get?_insert k _ j

theorem get?_change_setFlag (s : MemoryStore) (k : String) (b : Bool) (j : String) :
    (s.change (.setFlag k b)).values.get? j =
      if k = j then some (.flag b) else s.values.get? j :=
  s.values.get?_insert k _ j

theorem get?_change_erase (s : MemoryStore) (k j : String) :
    (s.change (.erase k)).values.get? j = if k = j then none else s.values.get? j :=
  s.values.get?_erase k j

end MemoryStore

end Onboarding
