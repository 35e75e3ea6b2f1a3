import Onboarding.Json.Text

/-!
# Texts through JSON and back

A text that is written between quotes is read back as it was, whatever its characters and whatever
follows it. Written texts are characters and read texts are bytes, so everything here is about the
UTF-8 form of what is written.

## Main results

* `Utf8.encode_of_decode`: bytes that spell a text are its UTF-8 form.
* `JsonText.content_writeChar`: the written form of a character is read as that character.
* `JsonText.read_body`: a written text is read back.
-/

namespace Onboarding

namespace Utf8

/-- The UTF-8 form of characters. -/
def bytes (cs : List Char) : Bytes :=
  cs.flatMap String.utf8EncodeChar

theorem encode_ofList (cs : List Char) : encode (String.ofList cs) = bytes cs := by
  simp [encode, bytes, String.ofList, List.utf8Encode]

theorem bytes_toList (s : String) : bytes s.toList = encode s := by
  rw [← encode_ofList, String.ofList_toList]

theorem bytes_append (cs ds : List Char) : bytes (cs ++ ds) = bytes cs ++ bytes ds :=
  List.flatMap_append

/-- Bytes that spell a text are its UTF-8 form. -/
theorem encode_of_decode {bs : Bytes} {t : String} (h : decode bs = some t) : encode t = bs := by
  rw [decode, String.fromUTF8?] at h
  split at h
  · rename_i hv
    simp only [Option.some.injEq] at h
    subst h
    simp [encode, String.fromUTF8]
  · simp at h

end Utf8

namespace JsonText

open Utf8 (bytes)

/-! ### Characters -/

/-- A byte that stands for itself between quotes. -/
def IsInner (b : UInt8) : Prop :=
  b ≠ 0x22 ∧ b ≠ 0x5C ∧ ¬b < 0x20

/-- The bytes of a character that is not escaped stand for themselves. -/
theorem isInner_utf8EncodeChar {c : Char} (hc : 0x20 ≤ c.toNat) (hq : c ≠ '"') (hb : c ≠ '\\')
    {b : UInt8} (h : b ∈ String.utf8EncodeChar c) : IsInner b := by
  have hq' : c.val.toNat ≠ 0x22 := fun h => hq (Char.ext (UInt32.toNat_inj.1 h))
  have hb' : c.val.toNat ≠ 0x5C := fun h => hb (Char.ext (UInt32.toNat_inj.1 h))
  have heq : c.toNat = c.val.toNat := rfl
  rw [String.utf8EncodeChar] at h
  simp only [IsInner, ← UInt8.toNat_inj, UInt8.lt_iff_toNat_lt, ne_eq]
  split at h
  · simp only [List.mem_singleton] at h
    subst h
    simp
    omega
  · split at h
    · simp only [List.mem_cons, List.not_mem_nil, or_false] at h
      rcases h with rfl | rfl <;> simp <;> omega
    · split at h
      · simp only [List.mem_cons, List.not_mem_nil, or_false] at h
        rcases h with rfl | rfl | rfl <;> simp <;> omega
      · simp only [List.mem_cons, List.not_mem_nil, or_false] at h
        rcases h with rfl | rfl | rfl | rfl <;> simp <;> omega

/-- Bytes that stand for themselves are read as they are. -/
theorem content_append {inner : Bytes} (h : ∀ b ∈ inner, IsInner b)
    (rest : Bytes) :
    content (inner ++ rest) = (content rest).map fun (bs, r) => (inner ++ bs, r) := by
  induction inner with
  | nil => simp
  | cons b inner ih =>
      obtain ⟨hq, hb, hc⟩ := h b List.mem_cons_self
      have ih := ih fun d hd => h d (List.mem_cons_of_mem _ hd)
      rw [List.cons_append, content.eq_def]
      simp only [hq, hb, hc, if_false]
      rw [ih, Option.map_map]
      rfl

/-- The byte of a hexadecimal digit. -/
def hexByte (n : Nat) : UInt8 :=
  UInt8.ofNat (hexDigit n).toNat

/-- The escape of a control character in bytes. -/
theorem bytes_escape : ∀ n < 0x20,
    bytes ['\\', 'u', '0', '0', hexDigit (n / 16), hexDigit n] =
      [0x5C, 0x75, 0x30, 0x30, hexByte (n / 16), hexByte n] := by
  decide

/-- The escape of a control character spells its number. -/
theorem unit?_hexByte : ∀ n < 0x20,
    unit? 0x30 0x30 (hexByte (n / 16)) (hexByte n) = some n := by
  decide

/-- **The written form of a character is read as that character.** -/
theorem content_writeChar (c : Char) (rest : Bytes) :
    content (bytes (writeChar c) ++ rest) =
      (content rest).map fun (bs, r) => (String.utf8EncodeChar c ++ bs, r) := by
  rw [writeChar.eq_def]
  split
  · change content (0x5C :: 0x22 :: rest) = _
    rw [content.eq_def]
    rfl
  · change content (0x5C :: 0x5C :: rest) = _
    rw [content.eq_def]
    rfl
  · change content (0x5C :: 0x62 :: rest) = _
    rw [content.eq_def]
    rfl
  · change content (0x5C :: 0x66 :: rest) = _
    rw [content.eq_def]
    rfl
  · change content (0x5C :: 0x6E :: rest) = _
    rw [content.eq_def]
    rfl
  · change content (0x5C :: 0x72 :: rest) = _
    rw [content.eq_def]
    rfl
  · change content (0x5C :: 0x74 :: rest) = _
    rw [content.eq_def]
    rfl
  · rename_i hq hb _ _ _ _ _
    split
    · rename_i hc
      have hhigh : isHigh c.toNat = false := by simp [isHigh]; omega
      have hlow : isLow c.toNat = false := by simp [isLow]; omega
      rw [bytes_escape _ hc]
      change content (0x5C :: 0x75 :: 0x30 :: 0x30 :: hexByte (c.toNat / 16) ::
        hexByte c.toNat :: rest) = _
      rw [content.eq_def]
      simp only [unit?_hexByte _ hc, hhigh, hlow, ofCodePoint, Char.ofNat_toNat]
      rfl
    · rename_i hc
      have hplain : bytes [c] = String.utf8EncodeChar c := by simp [bytes]
      rw [hplain, content_append]
      intro b h
      exact isInner_utf8EncodeChar (by omega) hq hb h

/-! ### Texts -/

/-- What stands between the quotes of a written text. -/
def body (s : String) : Bytes :=
  bytes (s.toList.flatMap writeChar)

/-- A written text stands between quotes. -/
theorem bytes_write (s : String) : bytes (write s) = 0x22 :: (body s ++ [0x22]) := by
  rw [write, List.cons_append, body]
  change 0x22 :: bytes (s.toList.flatMap writeChar ++ ['"']) = _
  rw [Utf8.bytes_append]
  rfl

/-- Written characters are read up to the closing quote. -/
theorem content_flatMap_writeChar (cs : List Char) (rest : Bytes) :
    content (bytes (cs.flatMap writeChar) ++ 0x22 :: rest) = some (bytes cs, rest) := by
  induction cs with
  | nil =>
      change content (0x22 :: rest) = some ([], rest)
      rw [content.eq_def]
      rfl
  | cons c cs ih =>
      rw [List.flatMap_cons, Utf8.bytes_append, List.append_assoc, content_writeChar, ih]
      rfl

/-- **A written text is read back**, whatever follows it. -/
theorem read_body (s : String) (rest : Bytes) :
    read (body s ++ 0x22 :: rest) = some (s, rest) := by
  rw [read, body, content_flatMap_writeChar, Utf8.bytes_toList]
  simp [Utf8.decode_encode]

end JsonText

end Onboarding
