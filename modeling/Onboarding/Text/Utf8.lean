/-!
# Texts as bytes

Files, request bodies and answers are bytes; names and values are texts. `encode` writes a text in
UTF-8 and `decode` reads bytes that are a UTF-8 text and refuses all others.

## Main statements

* `decode_encode`: reading what was written gives the text back.
* `encode_injective`: different texts have different bytes.
-/

namespace Onboarding

/-- A sequence of bytes. -/
abbrev Bytes := List UInt8

namespace Utf8

/-- The UTF-8 form of a text. -/
def encode (s : String) : Bytes :=
  s.toByteArray.data.toList

/-- The text that the bytes spell, unless they are not UTF-8. -/
def decode (bs : Bytes) : Option String :=
  String.fromUTF8? ⟨bs.toArray⟩

theorem decode_encode (s : String) : decode (encode s) = some s := by
  have h : (⟨(encode s).toArray⟩ : ByteArray) = s.toByteArray := by simp [encode]
  have hv : (⟨(encode s).toArray⟩ : ByteArray).IsValidUTF8 := h ▸ s.isValidUTF8
  simp only [decode, String.fromUTF8?, hv, dite_true, Option.some.injEq]
  exact String.toByteArray_inj.1 h

theorem encode_injective {s t : String} (h : encode s = encode t) : s = t := by
  have := congrArg decode h
  simpa [decode_encode] using this

end Utf8

end Onboarding
