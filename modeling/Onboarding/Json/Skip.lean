import Onboarding.Json.Reader

/-!
# Skipping JSON values

A value that nobody looks at has to be well formed and nothing more: it may nest to any depth, its
numbers may be of any size, and the texts in it, names included, need neither be UTF-8 nor pair
their surrogates.
-/

namespace Onboarding.Json

/-- What follows a name and its colon. -/
def skipName (bs : Bytes) : Option Bytes :=
  match skipBlank bs with
  | 0x22 :: r =>
    match JsonText.skip r with
    | some r =>
      match skipBlank r with
      | 0x3A :: r => some r
      | _ => none
    | none => none
  | _ => none

mutual

/-- What follows the value at the start. -/
def skip : Nat → Bytes → Option Bytes
  | 0, _ => none
  | fuel + 1, bs =>
    match skipBlank bs with
    | [] => none
    | b :: r =>
      if b = 0x22 then JsonText.skip r
      else if b = 0x5B then
        match skipBlank r with
        | 0x5D :: r => some r
        | r => skipElements fuel r
      else if b = 0x7B then
        match skipBlank r with
        | 0x7D :: r => some r
        | r => skipMembers fuel r
      else if b = 0x2D ∨ (Lexeme.digit? b).isSome then (Lexeme.scan (b :: r)).map (·.2)
      else (constant (b :: r)).map (·.2)

/-- What follows the bracket that ends the values at the start. -/
def skipElements : Nat → Bytes → Option Bytes
  | 0, _ => none
  | fuel + 1, bs =>
    match skip fuel bs with
    | none => none
    | some r =>
      match skipBlank r with
      | 0x2C :: r => skipElements fuel r
      | 0x5D :: r => some r
      | _ => none

/-- What follows the brace that ends the members at the start. -/
def skipMembers : Nat → Bytes → Option Bytes
  | 0, _ => none
  | fuel + 1, bs =>
    match skipName bs with
    | none => none
    | some r =>
      match skip fuel r with
      | none => none
      | some r =>
        match skipBlank r with
        | 0x2C :: r => skipMembers fuel r
        | 0x7D :: r => some r
        | _ => none

end

end Onboarding.Json
