import Onboarding.Number.Binary64

/-!
# The shortest decimal of a binary64 magnitude

Among the decimals that round to a magnitude, the one with the fewest digits, and of those the
nearest to the magnitude itself. The search goes through the grids of one, two, … seventeen digits
and tests the two neighbours of the magnitude on each: the first grid with a hit wins.
-/

namespace Onboarding

/-- The decimal `digits · 10 ^ (exponent - (number of digits - 1))`: `exponent` is that of the
leading digit. -/
structure Decimal where
  digits : List Char
  exponent : Int
  deriving Repr, DecidableEq

namespace Decimal

/-- The decimals that round to a magnitude, as numerators over one denominator: the magnitude
itself, the two ends, and whether the ends belong to it. -/
structure Interval where
  value : Nat
  low : Nat
  high : Nat
  den : Nat
  closed : Bool

/-- Half a step away on both sides; the step below the least mantissa of an exponent is halved. -/
def interval (x : Binary64) : Interval :=
  let (up, down) := Binary64.twoPow (x.exponent - 2)
  let below :=
    if x.mantissa = Binary64.leastNormal ∧ Binary64.minExponent < x.exponent then 1 else 2
  { value := 4 * x.mantissa * up
    low := (4 * x.mantissa - below) * up
    high := (4 * x.mantissa + 2) * up
    den := down
    closed := x.mantissa % 2 = 0 }

/-- The least `k` below `limit`, from `k` on, with `den ≤ num · 10 ^ k`. -/
def raise (num den : Nat) : Nat → Nat → Nat
  | 0, k => k
  | limit + 1, k => if den ≤ num * Nat.pow 10 k then k else raise num den limit (k + 1)

/-- The exponent of the leading digit of `num / den`. -/
def leading (num den : Nat) : Int :=
  if den ≤ num then ((Nat.toDigits 10 (num / den)).length : Int) - 1
  else -(raise num den 400 0 : Int)

namespace Interval

/-- Compares `n · 10 ^ s` with numerators over the interval's denominator: both are brought to one
scale. -/
def onGrid (i : Interval) (s : Int) (n : Nat) : Nat × (Nat → Nat) :=
  if 0 ≤ s then (n * Nat.pow 10 s.toNat * i.den, id) else (n * i.den, (· * Nat.pow 10 (-s).toNat))

/-- Whether `n · 10 ^ s` rounds to the magnitude. -/
def holds (i : Interval) (s : Int) (n : Nat) : Bool :=
  let (p, scale) := i.onGrid s n
  if i.closed then scale i.low ≤ p && p ≤ scale i.high else scale i.low < p && p < scale i.high

/-- The lower neighbour of the magnitude on the grid of multiples of `10 ^ s`. -/
def floor (i : Interval) (s : Int) : Nat :=
  if 0 ≤ s then i.value / (i.den * Nat.pow 10 s.toNat)
  else i.value * Nat.pow 10 (-s).toNat / i.den

/-- How far `n · 10 ^ s` is from the magnitude, on the common scale. -/
def distance (i : Interval) (s : Int) (n : Nat) : Nat :=
  let (p, scale) := i.onGrid s n
  if p ≤ scale i.value then scale i.value - p else p - scale i.value

/-- The neighbour on the grid that rounds to the magnitude and is nearest to it. -/
def pick (i : Interval) (s : Int) : Option Nat :=
  let d := i.floor s
  match i.holds s d, i.holds s (d + 1) with
  | true, true =>
    let below := i.distance s d
    let above := i.distance s (d + 1)
    if below < above then some d
    else if above < below then some (d + 1)
    else some (if d % 2 = 0 then d else d + 1)
  | true, false => some d
  | false, true => some (d + 1)
  | false, false => none

/-- The first grid with a hit: `count` grids are left and the next has the step `10 ^ s`. -/
def search (i : Interval) : Nat → Int → Nat × Int
  | 0, s => (i.floor s, s)
  | count + 1, s =>
    match i.pick s with
    | some n => (n, s)
    | none => search i count (s - 1)

end Interval

/-- Zeros at the end are no digits of a decimal. -/
def stripZeros (cs : List Char) : List Char :=
  match (cs.reverse.dropWhile (· == '0')).reverse with
  | [] => ['0']
  | ds => ds

/-- The shortest decimal that rounds to `x`. -/
def shortest (x : Binary64) : Decimal :=
  if x.mantissa = 0 then ⟨['0'], 0⟩
  else
    let i := interval x
    let (n, s) := i.search 17 (leading i.value i.den)
    let ds := Nat.toDigits 10 n
    ⟨stripZeros ds, s + ds.length - 1⟩

end Decimal

end Onboarding
