import Onboarding.Proofs.Json.Grammar

/-!
# Members of objects

A text of an object may have a name more than once, and the value that the object has under the name
is that of its last member with it.

## Main results

* `Entries.get?_ofList`: of what is entered, the last value under a key is found.
* `Json.get?_ofMembers`: an object has under a name what its last member with the name has.
-/

namespace Onboarding

namespace Json

/-- The value of the last member with a name. -/
def Member.last? (name : String) (members : List Member) : Option Json :=
  (members.reverse.find? fun m => m.name = name).map Member.value

end Json

namespace Entries

variable {α : Type}

theorem get?_foldr_insert (k : String) (l : List (String × α)) :
    get? k (l.foldr (fun e t => insert e.1 e.2 t) []) = get? k l := by
  induction l with
  | nil => rfl
  | cons e l ih => rw [List.foldr_cons, get?_insert, ih, get?]

/-- Of what is entered, the last value under a key is found. -/
theorem get?_ofList (k : String) (l : List (String × α)) :
    get? k (ofList l) = get? k l.reverse := by
  rw [ofList, List.foldl_eq_foldr_reverse, get?_foldr_insert]

end Entries

namespace Json

theorem get?_map_entry (name : String) (members : List Member) :
    Entries.get? name (members.map Member.entry) =
      (members.find? fun m => m.name = name).map Member.value := by
  induction members with
  | nil => rfl
  | cons m members ih =>
      rw [List.map_cons, Member.entry, Entries.get?, ih, List.find?_cons]
      by_cases hm : m.name = name
      · simp [hm]
      · simp [hm]

/-- An object has under a name what its last member with the name has. -/
theorem get?_ofMembers (name : String) (members : List Member) :
    (ofMembers (members.map Member.entry)).get? name = Member.last? name members := by
  rw [ofMembers, get?, Entries.get?_ofList, ← List.map_reverse, get?_map_entry, Member.last?]

end Json

end Onboarding
