import Onboarding.Number.Numeral

/-!
# Internet addresses

Addresses of both families, with their texts. A dotted address has four numbers without leading
zeros; a colon address has up to eight groups of up to four hexadecimal digits, one run of zero
groups may be left out, and its last two groups may be dotted. Texts are written in the shortest
form: lower case, the longest run of at least two zero groups left out, the first of equal ones.
-/

namespace Onboarding

/-- A dotted address. -/
structure Ipv4 where
  a : UInt8
  b : UInt8
  c : UInt8
  d : UInt8
  deriving Repr, DecidableEq, Inhabited

/-- A colon address of eight groups. -/
structure Ipv6 where
  groups : List UInt16
  deriving Repr, DecidableEq, Inhabited

namespace Address

/-- The value of a digit in a base up to sixteen, of either case. -/
def digit? (radix : Nat) (c : Char) : Option Nat :=
  let v :=
    if '0' ≤ c ∧ c ≤ '9' then some (c.toNat - '0'.toNat)
    else if 'a' ≤ c ∧ c ≤ 'f' then some (c.toNat - 'a'.toNat + 10)
    else if 'A' ≤ c ∧ c ≤ 'F' then some (c.toNat - 'A'.toNat + 10)
    else none
  v.filter (· < radix)

/-- The digits at the start, and what follows them. -/
def takeDigits (radix : Nat) : List Char → List Nat × List Char
  | [] => ([], [])
  | c :: r =>
    match digit? radix c with
    | some d => let (ds, rest) := takeDigits radix r; (d :: ds, rest)
    | none => ([], c :: r)

/-- How the digits of a number may be written. -/
structure Numbering where
  radix : Nat
  /-- The greatest number of digits, if there is one. -/
  width : Option Nat
  leadingZeros : Bool
  greatest : Nat

/-- The number at the start, and what follows it. -/
def number (f : Numbering) (cs : List Char) : Option (Nat × List Char) :=
  let (ds, rest) := takeDigits f.radix cs
  let n := ds.foldl (fun n d => f.radix * n + d) 0
  if ds.isEmpty then none
  else if f.width.any (· < ds.length) then none
  else if !f.leadingZeros && ds.head? == some 0 && 1 < ds.length then none
  else if f.greatest < n then none
  else some (n, rest)

/-- What follows the character `m` at the start. -/
def after (m : Char) : List Char → Option (List Char)
  | c :: r => if c = m then some r else none
  | [] => none

/-- One of the four numbers of a dotted address. -/
def octet : Numbering := ⟨10, some 3, false, 255⟩

/-- One group of a colon address. -/
def group : Numbering := ⟨16, some 4, true, 0xFFFF⟩

/-- A port. -/
def port : Numbering := ⟨10, none, true, 0xFFFF⟩

/-- A scope. -/
def scope : Numbering := ⟨10, none, true, 0xFFFFFFFF⟩

/-- The dotted address at the start. -/
def ipv4 (cs : List Char) : Option (Ipv4 × List Char) := do
  let (a, cs) ← number octet cs
  let (b, cs) ← number octet (← after '.' cs)
  let (c, cs) ← number octet (← after '.' cs)
  let (d, cs) ← number octet (← after '.' cs)
  return (⟨a.toUInt8, b.toUInt8, c.toUInt8, d.toUInt8⟩, cs)

/-- A dotted address as the last two groups of a colon address. -/
def pairOf (x : Ipv4) : List UInt16 :=
  [x.a.toUInt16 * 256 + x.b.toUInt16, x.c.toUInt16 * 256 + x.d.toUInt16]

/-- Up to `room` groups at the start, whether a dotted address ended them, and what follows. Each
group but the first has a colon in front. -/
def groups : Nat → Bool → List Char → List UInt16 × Bool × List Char
  | 0, _, cs => ([], false, cs)
  | room + 1, isFirst, cs =>
    match if isFirst then some cs else after ':' cs with
    | none => ([], false, cs)
    | some r =>
      match if room = 0 then none else ipv4 r with
      | some (x, r) => (pairOf x, true, r)
      | none =>
        match number group r with
        | none => ([], false, cs)
        | some (g, r) =>
          let (gs, dotted, rest) := groups room false r
          (g.toUInt16 :: gs, dotted, rest)

/-- The colon address at the start. -/
def ipv6 (cs : List Char) : Option (Ipv6 × List Char) := do
  let (front, dotted, r) := groups 8 true cs
  if front.length = 8 then return (⟨front⟩, r)
  if dotted then none
  let r ← after ':' (← after ':' r)
  let (back, _, r) := groups (7 - front.length) true r
  return (⟨front ++ List.replicate (8 - front.length - back.length) 0 ++ back⟩, r)

/-- The texts with a separator between each two. -/
def joined (m : Char) : List (List Char) → List Char
  | [] => []
  | [t] => t
  | t :: ts => t ++ m :: joined m ts

/-- The length of the run of zero groups at the start. -/
def zeros : List UInt16 → Nat
  | [] => 0
  | g :: r => if g = 0 then zeros r + 1 else 0

/-- Where the longest run of zero groups starts and how long it is; the first of equal ones. -/
def longestZeros : Nat → List UInt16 → Nat × Nat
  | i, [] => (i, 0)
  | i, g :: r =>
    let later := longestZeros (i + 1) r
    if later.2 ≤ zeros (g :: r) then (i, zeros (g :: r)) else later

/-- Groups with colons between them. -/
def groupTexts (gs : List UInt16) : List Char :=
  joined ':' (gs.map fun g => Nat.toDigits 16 g.toNat)

end Address

namespace Ipv4

/-- The text of a dotted address. -/
def text (x : Ipv4) : List Char :=
  Address.joined '.' ([x.a, x.b, x.c, x.d].map fun n => Numeral.text n.toNat)

/-- The address that a text spells. -/
def parse? (cs : List Char) : Option Ipv4 :=
  match Address.ipv4 cs with
  | some (x, []) => some x
  | _ => none

/-- The address of the host itself. -/
def loopback : Ipv4 := ⟨127, 0, 0, 1⟩

end Ipv4

namespace Ipv6

/-- The dotted address that a colon address stands for. -/
def mapped? (x : Ipv6) : Option Ipv4 :=
  match x.groups with
  | [0, 0, 0, 0, 0, 0xFFFF, p, q] =>
    some ⟨(p / 256).toUInt8, (p % 256).toUInt8, (q / 256).toUInt8, (q % 256).toUInt8⟩
  | _ => none

/-- Whether the address names a group of hosts. -/
def isMulticast (x : Ipv6) : Bool :=
  x.groups.head?.any (0xFF00 ≤ ·)

/-- Whether the address means one host on each link, so that only a scope tells which. -/
def isLinkLocal (x : Ipv6) : Bool :=
  x.groups.head?.any (· / 64 = 0xFE80 / 64)

/-- The text of a colon address. -/
def text (x : Ipv6) : List Char :=
  match x.mapped? with
  | some y => "::ffff:".toList ++ y.text
  | none =>
    let (start, length) := Address.longestZeros 0 x.groups
    if 1 < length then
      Address.groupTexts (x.groups.take start) ++ [':', ':']
        ++ Address.groupTexts (x.groups.drop (start + length))
    else Address.groupTexts x.groups

end Ipv6

/-- An address with a port. -/
inductive SocketAddress where
  | v4 (ip : Ipv4) (port : UInt16)
  | v6 (ip : Ipv6) (scope : UInt32) (port : UInt16)
  deriving Repr, DecidableEq

namespace SocketAddress

/-- A dotted address with its port. -/
def readV4 (cs : List Char) : Option (SocketAddress × List Char) := do
  let (ip, r) ← Address.ipv4 cs
  let (p, r) ← Address.number Address.port (← Address.after ':' r)
  return (v4 ip p.toUInt16, r)

/-- The scope behind a percent sign, zero if there is none. -/
def readScope (cs : List Char) : Nat × List Char :=
  (((Address.after '%' cs).bind (Address.number Address.scope)).getD (0, cs))

/-- A colon address in brackets with its port. -/
def readV6 (cs : List Char) : Option (SocketAddress × List Char) := do
  let (ip, r) ← Address.ipv6 (← Address.after '[' cs)
  let (s, r) := readScope r
  let r ← Address.after ':' (← Address.after ']' r)
  let (p, r) ← Address.number Address.port r
  return (v6 ip s.toUInt32 p.toUInt16, r)

/-- The address that a text spells. -/
def parse? (cs : List Char) : Option SocketAddress :=
  match (readV4 cs).or (readV6 cs) with
  | some (x, []) => some x
  | _ => none

/-- The text of an address. -/
def text : SocketAddress → List Char
  | v4 ip p => ip.text ++ ':' :: Numeral.text p.toNat
  | v6 ip s p =>
    let within := if s = 0 then [] else '%' :: Numeral.text s.toNat
    '[' :: ip.text ++ within ++ [']', ':'] ++ Numeral.text p.toNat

end SocketAddress

end Onboarding
