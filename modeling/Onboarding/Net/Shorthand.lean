import Onboarding.Net.Address
import Onboarding.Text.Cut

/-!
# Dotted addresses in short

A host may spell a dotted address in one to four parts, each a number in base eight, ten or sixteen.
Every part but the last fills one byte and the last fills the bytes that remain, so `127.1`,
`0x7f.0.0.1` and `017700000001` all lead to the host itself.
-/

namespace Onboarding.Ipv4

/-- The base of a part and its digits: `0x` stands before hexadecimal digits, and octal digits
start with a zero. -/
def basis : List Char → Nat × List Char
  | '0' :: 'x' :: r => (16, r)
  | '0' :: 'X' :: r => (16, r)
  | '0' :: r => (8, '0' :: r)
  | r => (10, r)

/-- The number that a part spells. -/
def part? (cs : List Char) : Option Nat :=
  let (radix, r) := basis cs
  match Address.number ⟨radix, none, true, 0xFFFFFFFF⟩ r with
  | some (n, []) => some n
  | _ => none

/-- The last `k` bytes of a number, the highest first. -/
def bytes : Nat → Nat → List UInt8
  | 0, _ => []
  | k + 1, n => bytes k (n / 256) ++ [n.toUInt8]

/-- The `k` bytes that parts fill: each part but the last fills one, the last all that remain. -/
def fill : Nat → List Nat → Option (List UInt8)
  | 0, _ => none
  | _, [] => none
  | k + 1, [n] => if n < Nat.pow 256 (k + 1) then some (bytes (k + 1) n) else none
  | k + 1, n :: m :: r => if n < 256 then (fill k (m :: r)).map (n.toUInt8 :: ·) else none

/-- The address that a text spells in up to four parts. -/
def ofShorthand? (cs : List Char) : Option Ipv4 :=
  match ((Text.pieces '.' cs).mapM part?).bind (fill 4) with
  | some [a, b, c, d] => some ⟨a, b, c, d⟩
  | _ => none

end Onboarding.Ipv4
