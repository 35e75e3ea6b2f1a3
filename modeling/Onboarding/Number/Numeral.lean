/-!
# Numerals of whole numbers

A numeral is an optional plus sign and at least one decimal digit; leading zeros are allowed, minus
signs, blanks and separators are not. A reader is given the greatest value it may return.
-/

namespace Onboarding.Numeral

/-- The value of a decimal digit. -/
def digit? (c : Char) : Option Nat :=
  if '0' ≤ c ∧ c ≤ '9' then some (c.toNat - '0'.toNat) else none

/-- Goes on with the digits of a number read so far, which stays at or below `limit`. -/
def extend? (limit : Nat) : Nat → List Char → Option Nat
  | n, [] => some n
  | n, c :: r =>
    match digit? c with
    | some d => if 10 * n + d ≤ limit then extend? limit (10 * n + d) r else none
    | none => none

/-- The value of digits alone. -/
def digits? (limit : Nat) : List Char → Option Nat
  | [] => none
  | cs => extend? limit 0 cs

/-- The value of a numeral up to `limit`. -/
def parse? (limit : Nat) : List Char → Option Nat
  | '+' :: r => digits? limit r
  | cs => digits? limit cs

/-- The numeral of a number, without sign or leading zeros. -/
def text (n : Nat) : List Char :=
  Nat.toDigits 10 n

end Onboarding.Numeral
