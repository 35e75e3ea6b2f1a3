import Onboarding.Json.Number
import Onboarding.Json.Text

/-!
# Reading JSON texts

`Json.parse?` reads bytes that are one JSON value with blanks around it. Values nest at most
`maxDepth` deep, texts are UTF-8, and the last of equal member names wins. The readers below it
take the value at the start of the bytes and give what follows; their first argument bounds the
number of calls and is computed from the length of the input.
-/

namespace Onboarding.Json

/-- The deepest nesting of arrays and objects that is read. -/
def maxDepth : Nat := 127

/-- Space, tabulator, line feed and carriage return. -/
def isBlankByte (b : UInt8) : Bool :=
  b == 0x20 || b == 0x09 || b == 0x0A || b == 0x0D

/-- The bytes from the first that is no blank. -/
def skipBlank (bs : Bytes) : Bytes :=
  bs.dropWhile isBlankByte

/-- What follows the word at the start. -/
def expect (word : Bytes) (bs : Bytes) : Option Bytes :=
  if word.isPrefixOf bs then some (bs.drop word.length) else none

/-- The words with a value of their own. -/
def constant (bs : Bytes) : Option (Json × Bytes) :=
  ((expect (Utf8.encode "null") bs).map (null, ·)).or <|
    ((expect (Utf8.encode "true") bs).map (bool true, ·)).or <|
      (expect (Utf8.encode "false") bs).map (bool false, ·)

/-- The number at the start. -/
def numeral (bs : Bytes) : Option (Json × Bytes) := do
  let (x, rest) ← Lexeme.scan bs
  return (number (← x.value?), rest)

/-- A name with its colon. -/
def name (bs : Bytes) : Option (String × Bytes) :=
  match skipBlank bs with
  | 0x22 :: r =>
    match JsonText.read r with
    | some (s, r) =>
      match skipBlank r with
      | 0x3A :: r => some (s, r)
      | _ => none
    | none => none
  | _ => none

mutual

/-- The value at the start, nested at most `depth` deep. -/
def value : Nat → Nat → Bytes → Option (Json × Bytes)
  | 0, _, _ => none
  | fuel + 1, depth, bs =>
    match skipBlank bs with
    | [] => none
    | b :: r =>
      if b = 0x22 then (JsonText.read r).map fun (s, r) => (text s, r)
      else if b = 0x5B then
        match depth with
        | 0 => none
        | depth + 1 =>
          match skipBlank r with
          | 0x5D :: r => some (array [], r)
          | r => (elements fuel depth r).map fun (items, r) => (array items, r)
      else if b = 0x7B then
        match depth with
        | 0 => none
        | depth + 1 =>
          match skipBlank r with
          | 0x7D :: r => some (object [], r)
          | r => (members fuel depth r).map fun (ms, r) => (ofMembers ms, r)
      else if b = 0x2D ∨ (Lexeme.digit? b).isSome then numeral (b :: r)
      else constant (b :: r)

/-- At least one value, and the bracket that ends them. -/
def elements : Nat → Nat → Bytes → Option (List Json × Bytes)
  | 0, _, _ => none
  | fuel + 1, depth, bs =>
    match value fuel depth bs with
    | none => none
    | some (v, r) =>
      match skipBlank r with
      | 0x2C :: r => (elements fuel depth r).map fun (vs, r) => (v :: vs, r)
      | 0x5D :: r => some ([v], r)
      | _ => none

/-- At least one member, and the brace that ends them. -/
def members : Nat → Nat → Bytes → Option (List (String × Json) × Bytes)
  | 0, _, _ => none
  | fuel + 1, depth, bs =>
    match name bs with
    | none => none
    | some (k, r) =>
      match value fuel depth r with
      | none => none
      | some (v, r) =>
        match skipBlank r with
        | 0x2C :: r => (members fuel depth r).map fun (ms, r) => ((k, v) :: ms, r)
        | 0x7D :: r => some ([(k, v)], r)
        | _ => none

end

/-- Enough calls for an input: two for each of its bytes, and two at its end. -/
def enough (bs : Bytes) : Nat :=
  2 * bs.length + 2

/-- The value of a JSON text. -/
def parse? (bs : Bytes) : Option Json :=
  match value (enough bs) maxDepth bs with
  | some (v, r) => if (skipBlank r).isEmpty then some v else none
  | none => none

end Onboarding.Json
