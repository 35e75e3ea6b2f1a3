import Onboarding.Json.Basic
import Onboarding.Number.Numeral
import Onboarding.Number.Shortest
import Onboarding.Text.Utf8

/-!
# Numbers in JSON texts

A number is scanned into its parts first (`Lexeme.scan`), so that a reader that ignores values can
stop there. Its value (`Lexeme.value?`) keeps at most as many leading digits as fit 64 bits and
scales them by a power of ten in binary64 arithmetic; digits past those only count as places. A
number beyond the greatest binary64 value has no value.

`JsonNumber.text` writes whole numbers as they are and all others as the shortest decimal:
positional for decimal exponents from -5 to 15, always with a point, and with a signed exponent
elsewhere.
-/

namespace Onboarding

/-- The parts of a number: digits before the point, behind it, and of the exponent. -/
structure Lexeme where
  negative : Bool
  whole : List Nat
  fraction : Option (List Nat)
  /-- Whether the exponent is negative, and its digits. -/
  exponent : Option (Bool × List Nat)
  deriving Repr, DecidableEq

namespace Lexeme

/-- The value of a digit. -/
def digit? (b : UInt8) : Option Nat :=
  if 0x30 ≤ b ∧ b ≤ 0x39 then some (b.toNat - 0x30) else none

/-- The digits at the start and what follows them. -/
def takeDigits : Bytes → List Nat × Bytes
  | [] => ([], [])
  | b :: r =>
    match digit? b with
    | some d => let (ds, rest) := takeDigits r; (d :: ds, rest)
    | none => ([], b :: r)

/-- At least one digit. -/
def someDigits (bs : Bytes) : Option (List Nat × Bytes) :=
  match takeDigits bs with
  | ([], _) => none
  | found => some found

/-- Digits without a needless zero in front. -/
def scanWhole (bs : Bytes) : Option (List Nat × Bytes) :=
  match someDigits bs with
  | some (0 :: _ :: _, _) => none
  | found => found

/-- A point with digits, if a point comes next. -/
def scanFraction : Bytes → Option (Option (List Nat) × Bytes)
  | 0x2E :: r => (someDigits r).map fun (ds, rest) => (some ds, rest)
  | bs => some (none, bs)

/-- An exponent mark with an optional sign and digits, if such a mark comes next. -/
def scanExponent : Bytes → Option (Option (Bool × List Nat) × Bytes)
  | [] => some (none, [])
  | b :: r =>
    if b = 0x65 ∨ b = 0x45 then
      let (negative, r) :=
        match r with
        | 0x2D :: r => (true, r)
        | 0x2B :: r => (false, r)
        | r => (false, r)
      (someDigits r).map fun (ds, rest) => (some (negative, ds), rest)
    else some (none, b :: r)

/-- The parts of the number at the start, and what follows it. -/
def scan (bs : Bytes) : Option (Lexeme × Bytes) := do
  let (negative, bs) :=
    match bs with
    | 0x2D :: r => (true, r)
    | r => (false, r)
  let (whole, bs) ← scanWhole bs
  let (fraction, bs) ← scanFraction bs
  let (exponent, bs) ← scanExponent bs
  return (⟨negative, whole, fraction, exponent⟩, bs)

/-- Appends digits to a number while it fits 64 bits; the second part are the digits left over. -/
def absorb (n : Nat) : List Nat → Nat × List Nat
  | [] => (n, [])
  | d :: r => if 10 * n + d < UInt64.size then absorb (10 * n + d) r else (n, d :: r)

/-- The greatest power of ten that is used as one factor. -/
def greatestPower : Nat := 308

/-- Divides by the greatest power a number of times, which stops at zero. -/
def shrink : Nat → Binary64 → Option Binary64
  | 0, x => some x
  | steps + 1, x =>
    if x.mantissa = 0 then some x
    else ((Binary64.tenPow greatestPower).bind x.div).bind (shrink steps)

/-- Divides by `10 ^ k`: by the greatest power as long as more than that is left, then by the
rest. -/
def divTenPow (x : Binary64) (k : Nat) : Option Binary64 := do
  let steps := (k - 1) / greatestPower
  let y ← shrink steps x
  if y.mantissa = 0 then return y
  y.div (← Binary64.tenPow (k - greatestPower * steps))

/-- The magnitude of `n · 10 ^ e`: `n` is rounded, then scaled with one rounding per factor. -/
def assemble (n : Nat) (e : Int) : Option Binary64 := do
  let x ← Binary64.round n 1
  if e < 0 then divTenPow x (-e).toNat
  else if e.toNat ≤ greatestPower then x.mul (← Binary64.tenPow e.toNat)
  else if n = 0 then some x
  else none

/-- A whole number of decimal digits. -/
def ofDigits (ds : List Nat) : Nat :=
  ds.foldl (fun n d => 10 * n + d) 0

/-- The value of the exponent, zero without one. -/
def exponentValue (x : Lexeme) : Int :=
  match x.exponent with
  | none => 0
  | some (negative, ds) => if negative then -(ofDigits ds : Int) else ofDigits ds

/-- The value of a number, unless it is too great. -/
def value? (x : Lexeme) : Option JsonNumber :=
  let (whole, left) := absorb 0 x.whole
  match x.fraction, x.exponent, left with
  | none, none, [] =>
    if !x.negative then some (.integer whole)
    else if whole = 0 ∨ UInt64.size / 2 < whole then (Binary64.round whole 1).map (.binary true)
    else some (.integer (-whole))
  | _, _, _ =>
    let fraction := x.fraction.getD []
    let (significand, dropped) := absorb whole fraction
    let places : Int := (left.length : Int) + dropped.length - fraction.length
    (assemble significand (places + x.exponentValue)).map (.binary x.negative)

end Lexeme

namespace JsonNumber

/-- The decimal exponents of positional texts. -/
def positional (e : Int) : Bool :=
  -5 ≤ e && e ≤ 15

/-- A decimal with a point, or with a point and an exponent. -/
def decimalText (x : Decimal) : List Char :=
  let n := x.digits.length
  if positional x.exponent then
    if x.exponent < 0 then
      ['0', '.'] ++ List.replicate (-x.exponent - 1).toNat '0' ++ x.digits
    else
      let whole := x.exponent.toNat + 1
      if n ≤ whole then x.digits ++ List.replicate (whole - n) '0' ++ ['.', '0']
      else x.digits.take whole ++ ['.'] ++ x.digits.drop whole
  else
    let mantissa :=
      if n ≤ 1 then x.digits else x.digits.take 1 ++ ['.'] ++ x.digits.drop 1
    mantissa ++ ['e', if x.exponent < 0 then '-' else '+'] ++ Numeral.text x.exponent.natAbs

/-- The text of a number. -/
def text : JsonNumber → List Char
  | .integer i => (if i < 0 then ['-'] else []) ++ Numeral.text i.natAbs
  | .binary negative x => (if negative then ['-'] else []) ++ decimalText (Decimal.shortest x)

end JsonNumber

end Onboarding
