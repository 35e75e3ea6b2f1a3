import Onboarding.Text.Utf8

/-!
# Texts in JSON texts

What stands between the quotes of a JSON text. `read` resolves escapes and wants UTF-8; `skip` only
looks for the closing quote and checks that escapes are well formed; `write` escapes the quote, the
backslash and the characters below the space.
-/

namespace Onboarding.JsonText

/-- The value of a hexadecimal digit of either case. -/
def hex? (b : UInt8) : Option Nat :=
  if 0x30 ≤ b ∧ b ≤ 0x39 then some (b.toNat - 0x30)
  else if 0x41 ≤ b ∧ b ≤ 0x46 then some (b.toNat - 0x41 + 10)
  else if 0x61 ≤ b ∧ b ≤ 0x66 then some (b.toNat - 0x61 + 10)
  else none

/-- The code unit spelt by four hexadecimal digits. -/
def unit? (a b c d : UInt8) : Option Nat := do
  return (((← hex? a) * 16 + (← hex? b)) * 16 + (← hex? c)) * 16 + (← hex? d)

/-- The byte behind a short escape. -/
def escaped? (b : UInt8) : Option UInt8 :=
  if b = 0x22 then some 0x22
  else if b = 0x5C then some 0x5C
  else if b = 0x2F then some 0x2F
  else if b = 0x62 then some 0x08
  else if b = 0x66 then some 0x0C
  else if b = 0x6E then some 0x0A
  else if b = 0x72 then some 0x0D
  else if b = 0x74 then some 0x09
  else none

/-- A unit that starts a pair. -/
def isHigh (u : Nat) : Bool := 0xD800 ≤ u && u ≤ 0xDBFF

/-- A unit that ends a pair. -/
def isLow (u : Nat) : Bool := 0xDC00 ≤ u && u ≤ 0xDFFF

/-- The UTF-8 form of a code point. -/
def ofCodePoint (n : Nat) : Bytes :=
  String.utf8EncodeChar (Char.ofNat n)

/-- The bytes up to the closing quote with all escapes resolved, and what follows the quote. -/
def content : Bytes → Option (Bytes × Bytes)
  | [] => none
  | b :: r =>
    if b = 0x22 then some ([], r)
    else if b = 0x5C then
      match r with
      | [] => none
      | e :: r =>
        if e = 0x75 then
          match r with
          | h₁ :: h₂ :: h₃ :: h₄ :: r =>
            match unit? h₁ h₂ h₃ h₄ with
            | none => none
            | some u =>
              if isHigh u then
                match r with
                | s :: t :: k₁ :: k₂ :: k₃ :: k₄ :: r =>
                  if s = 0x5C ∧ t = 0x75 then
                    match unit? k₁ k₂ k₃ k₄ with
                    | none => none
                    | some v =>
                      if isLow v then
                        (content r).map fun (bs, rest) =>
                          (ofCodePoint (0x10000 + (u - 0xD800) * 0x400 + (v - 0xDC00)) ++ bs, rest)
                      else none
                  else none
                | _ => none
              else if isLow u then none
              else (content r).map fun (bs, rest) => (ofCodePoint u ++ bs, rest)
          | _ => none
        else
          match escaped? e with
          | none => none
          | some x => (content r).map fun (bs, rest) => (x :: bs, rest)
    else if b < 0x20 then none
    else (content r).map fun (bs, rest) => (b :: bs, rest)

/-- The text up to the closing quote, and what follows the quote. -/
def read (bs : Bytes) : Option (String × Bytes) := do
  let (inner, rest) ← content bs
  return (← Utf8.decode inner, rest)

/-- What follows the closing quote of a text that nobody looks at. -/
def skip : Bytes → Option Bytes
  | [] => none
  | b :: r =>
    if b = 0x22 then some r
    else if b = 0x5C then
      match r with
      | [] => none
      | e :: r =>
        if e = 0x75 then
          match r with
          | h₁ :: h₂ :: h₃ :: h₄ :: r => if (unit? h₁ h₂ h₃ h₄).isSome then skip r else none
          | _ => none
        else if (escaped? e).isSome then skip r
        else none
    else if b < 0x20 then none
    else skip r

/-- A hexadecimal digit in lower case. -/
def hexDigit (n : Nat) : Char :=
  Nat.digitChar (n % 16)

/-- The written form of one character. -/
def writeChar (c : Char) : List Char :=
  match c with
  | '"' => ['\\', '"']
  | '\\' => ['\\', '\\']
  | '\x08' => ['\\', 'b']
  | '\x0c' => ['\\', 'f']
  | '\n' => ['\\', 'n']
  | '\r' => ['\\', 'r']
  | '\t' => ['\\', 't']
  | _ =>
    if c.toNat < 0x20 then ['\\', 'u', '0', '0', hexDigit (c.toNat / 16), hexDigit c.toNat]
    else [c]

/-- A text between quotes. -/
def write (s : String) : List Char :=
  '"' :: s.toList.flatMap writeChar ++ ['"']

end Onboarding.JsonText
