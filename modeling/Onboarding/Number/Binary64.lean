/-!
# Binary floating point in 64 bits

The finite magnitudes `m · 2 ^ e` of the binary64 format, in exact arithmetic on natural numbers.
`round` takes a quotient to its nearest magnitude, ties to the even mantissa; products and
quotients of magnitudes are the exact results rounded. A result above the greatest finite magnitude
is no magnitude.
-/

namespace Onboarding

/-- The magnitude `mantissa · 2 ^ exponent`. -/
structure Binary64 where
  mantissa : Nat
  exponent : Int
  deriving Repr, DecidableEq

namespace Binary64

/-- The least exponent, that of subnormal magnitudes. -/
def minExponent : Int := -1074

/-- The exponent of the greatest finite magnitudes. -/
def maxExponent : Int := 971

/-- The mantissa of a normal magnitude has this many bits. -/
def precision : Nat := 53

/-- The least mantissa of a normal magnitude. -/
def leastNormal : Nat := Nat.pow 2 (precision - 1)

def zero : Binary64 := ⟨0, minExponent⟩

/-- A power of two whose exponent may be negative, as numerator and denominator. -/
def twoPow (e : Int) : Nat × Nat :=
  if 0 ≤ e then (Nat.pow 2 e.toNat, 1) else (1, Nat.pow 2 (-e).toNat)

/-- The whole number nearest to `num / den`; halves go to the even neighbour. -/
def roundDiv (num den : Nat) : Nat :=
  let q := num / den
  let r := num % den
  if 2 * r < den then q
  else if den < 2 * r then q + 1
  else if q % 2 = 0 then q else q + 1

/-- `num / (den · 2 ^ e)`, as numerator and denominator. -/
def scaled (num den : Nat) (e : Int) : Nat × Nat :=
  let (up, down) := twoPow (-e)
  (num * up, den * down)

/-- The exponent at which `num / den` has a mantissa of full precision, if the format reaches it. -/
def exponentOf (num den : Nat) : Int :=
  let guess : Int := (num.log2 : Int) - den.log2 - (precision - 1 : Nat)
  let (n, d) := scaled num den guess
  max minExponent (if n < d * leastNormal then guess - 1 else guess)

/-- The magnitude nearest to `num / den`. -/
def round (num den : Nat) : Option Binary64 :=
  if num = 0 then some zero
  else
    let e := exponentOf num den
    let (n, d) := scaled num den e
    let m := roundDiv n d
    let x : Binary64 := if m = 2 * leastNormal then ⟨leastNormal, e + 1⟩ else ⟨m, e⟩
    if x.exponent ≤ maxExponent then some x else none

/-- A magnitude as numerator and denominator. -/
def ratio (x : Binary64) : Nat × Nat :=
  let (up, down) := twoPow x.exponent
  (x.mantissa * up, down)

/-- The rounded product. -/
def mul (x y : Binary64) : Option Binary64 :=
  round (x.ratio.1 * y.ratio.1) (x.ratio.2 * y.ratio.2)

/-- The rounded quotient by a magnitude other than zero. -/
def div (x y : Binary64) : Option Binary64 :=
  round (x.ratio.1 * y.ratio.2) (x.ratio.2 * y.ratio.1)

/-- The magnitude nearest to a power of ten. -/
def tenPow (k : Nat) : Option Binary64 :=
  round (Nat.pow 10 k) 1

end Binary64

end Onboarding
