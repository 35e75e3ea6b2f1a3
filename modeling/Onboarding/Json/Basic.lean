import Onboarding.Number.Binary64
import Onboarding.Table

/-!
# JSON values

The values of a JSON text. A number is either a whole number that fits 64 bits, signed or unsigned,
or a binary64 value; members of an object are listed by increasing name, each name once.
-/

namespace Onboarding

/-- A number of a JSON text. -/
inductive JsonNumber where
  /-- A whole number from `-2 ^ 63` to `2 ^ 64 - 1`. -/
  | integer (value : Int)
  /-- Any other number, rounded; zero keeps its sign. -/
  | binary (negative : Bool) (magnitude : Binary64)
  deriving Repr, DecidableEq

/-- A JSON value. -/
inductive Json where
  | null
  | bool (value : Bool)
  | number (value : JsonNumber)
  | text (value : String)
  | array (items : List Json)
  | object (members : List (String × Json))
  deriving Repr, Inhabited

namespace Json

/-- An object with the given members; the last of equal names wins. -/
def ofMembers (members : List (String × Json)) : Json :=
  object (Entries.ofList members)

/-- A count. -/
def ofNat (n : Nat) : Json :=
  number (.integer n)

/-- The member of an object; other values have none. -/
def get? (name : String) : Json → Option Json
  | object members => Entries.get? name members
  | _ => none

/-- The text that a value is. -/
def text? : Json → Option String
  | text s => some s
  | _ => none

end Json

end Onboarding
