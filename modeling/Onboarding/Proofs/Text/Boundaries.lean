import Onboarding.Proofs.Json.Texts

/-!
# Boundaries between characters

Bytes are a text if they are the UTF-8 form of one (`Utf8.IsText`). A text may be cut into two texts
between its characters and nowhere else, and the first byte of a character shows where that is: no
other byte of a character looks like one. Cutting a text at a byte (`Utf8.upTo?`, `Utf8.fromByte?`)
therefore has a result exactly at these boundaries.

## Main results

* `Utf8.IsText.split`: a text may be cut before the first byte of a character.
* `Utf8.IsText.around`: what stands before a character of a text, and what stands behind it.
* `Utf8.upTo?_eq_some_iff`: a cut at a byte is a cut between characters.
-/

namespace Onboarding.Utf8

/-- Bytes that are the UTF-8 form of a text. -/
def IsText (bs : Bytes) : Prop :=
  ∃ cs, bytes cs = bs

theorem isText_bytes (cs : List Char) : IsText (bytes cs) :=
  ⟨cs, rfl⟩

theorem isText_encode (s : String) : IsText (encode s) :=
  ⟨s.toList, bytes_toList s⟩

/-- Bytes are a text exactly if they are read as one. -/
theorem isText_iff_decode {bs : Bytes} : IsText bs ↔ ∃ s, decode bs = some s := by
  constructor
  · rintro ⟨cs, rfl⟩
    exact ⟨String.ofList cs, by rw [← encode_ofList, decode_encode]⟩
  · rintro ⟨s, hs⟩
    exact encode_of_decode hs ▸ isText_encode s

theorem decode_eq_none_iff {bs : Bytes} : decode bs = none ↔ ¬IsText bs := by
  rw [isText_iff_decode, Option.eq_none_iff_forall_ne_some, not_exists]

/-- Bytes are a text exactly if core says that they are UTF-8. -/
theorem isText_iff_isValidUTF8 {bs : Bytes} : IsText bs ↔ bs.toByteArray.IsValidUTF8 := by
  constructor
  · rintro ⟨cs, rfl⟩
    exact .intro cs rfl
  · rintro ⟨cs, hcs⟩
    exact ⟨cs, (List.toByteArray_inj.mp hcs).symm⟩

instance : DecidablePred IsText :=
  fun bs => decidable_of_iff ((decode bs).isSome = true) <| by
    rw [isText_iff_decode, Option.isSome_iff_exists]

/-- Different texts have different bytes. -/
theorem bytes_injective {cs ds : List Char} (h : bytes cs = bytes ds) : cs = ds := by
  rw [← encode_ofList, ← encode_ofList] at h
  exact String.ofList_injective (encode_injective h)

/-- Two texts are a text. -/
theorem IsText.append {bs ds : Bytes} (hbs : IsText bs) (hds : IsText ds) : IsText (bs ++ ds) := by
  obtain ⟨xs, rfl⟩ := hbs
  obtain ⟨ys, rfl⟩ := hds
  exact ⟨xs ++ ys, bytes_append xs ys⟩

/-! ### Bytes that are characters -/

/-- A byte below 128 is a character of its own. -/
theorem exists_char_of_ascii {b : UInt8} (hb : b < 0x80) :
    ∃ c, String.utf8EncodeChar c = [b] := by
  have hlt : b.toNat < 0x80 := UInt8.lt_iff_toNat_lt.mp hb
  have hvalid : b.toNat.isValidChar := .inl (by omega)
  have hchar : (Char.ofNat b.toNat).val.toNat = b.toNat := by
    rw [Char.ofNat, dif_pos hvalid]
    rfl
  refine ⟨Char.ofNat b.toNat, ?_⟩
  rw [String.utf8EncodeChar, hchar, if_pos (by omega), UInt8.ofNat_toNat]

/-- Bytes below 128. -/
def IsAscii (bs : Bytes) : Prop :=
  ∀ b ∈ bs, b < 0x80

theorem IsAscii.append {bs ds : Bytes} (hbs : IsAscii bs) (hds : IsAscii ds) :
    IsAscii (bs ++ ds) := by
  intro b hb
  exact (List.mem_append.mp hb).elim (hbs b) (hds b)

/-- Bytes below 128 are a text. -/
theorem IsAscii.isText {bs : Bytes} (h : IsAscii bs) : IsText bs := by
  induction bs with
  | nil => exact ⟨[], rfl⟩
  | cons b bs ih =>
      obtain ⟨c, hc⟩ := exists_char_of_ascii (h b List.mem_cons_self)
      obtain ⟨cs, rfl⟩ := ih fun d hd => h d (List.mem_cons_of_mem _ hd)
      exact ⟨c :: cs, by rw [bytes, List.flatMap_cons, hc]; rfl⟩

/-- A text of characters below 128 has as many bytes as it has characters. -/
theorem length_bytes_of_ascii {cs : List Char} (h : ∀ c ∈ cs, c.toNat < 0x80) :
    (bytes cs).length = cs.length := by
  induction cs with
  | nil => rfl
  | cons c cs ih =>
      have hsize : c.utf8Size = 1 := by
        rw [Char.utf8Size_eq_one_iff, UInt32.le_iff_toNat_le]
        exact Nat.le_of_lt_succ (h c List.mem_cons_self)
      have hcons : bytes (c :: cs) = String.utf8EncodeChar c ++ bytes cs := rfl
      rw [hcons, List.length_append, String.length_utf8EncodeChar, hsize,
        ih fun d hd => h d (List.mem_cons_of_mem _ hd), List.length_cons, Nat.add_comm]

/-- The first byte of a character shows that it is one. -/
theorem exists_firstByte (c : Char) :
    ∃ b r, String.utf8EncodeChar c = b :: r ∧ b.IsUTF8FirstByte := by
  obtain ⟨b, r, hbr⟩ := List.exists_cons_of_ne_nil (String.utf8EncodeChar_ne_nil (c := c))
  refine ⟨b, r, hbr, ?_⟩
  have hfirst := UInt8.isUTF8FirstByte_getElem_zero_utf8EncodeChar (c := c)
  simpa [hbr] using hfirst

/-! ### Cuts of a text -/

/-- **A text may be cut before the first byte of a character.** -/
theorem IsText.split {p r : Bytes} {b : UInt8} (hb : b.IsUTF8FirstByte)
    (h : IsText (p ++ b :: r)) : IsText p ∧ IsText (b :: r) := by
  obtain ⟨cs, hcs⟩ := h
  induction cs generalizing p with
  | nil => simp [bytes] at hcs
  | cons c cs ih =>
      have hcons : String.utf8EncodeChar c ++ bytes cs = p ++ b :: r := hcs
      rcases List.append_eq_append_iff.mp hcons with ⟨q, rfl, hrest⟩ | ⟨q, hchar, hrest⟩
      · -- the cut is behind the first character
        obtain ⟨hq, hr⟩ := ih hrest
        have hc : IsText (String.utf8EncodeChar c) := ⟨[c], by simp [bytes]⟩
        exact ⟨hc.append hq, hr⟩
      · cases q with
        | nil =>
            rw [List.append_nil] at hchar
            exact ⟨⟨[c], by simp [bytes, hchar]⟩, ⟨cs, hrest.symm⟩⟩
        | cons d q =>
            -- the cut would be inside the first character, which has no other first byte
            obtain ⟨rfl, rfl⟩ := List.cons.inj hrest
            have hlt : p.length < (String.utf8EncodeChar c).length := by simp [hchar]
            have hget : (String.utf8EncodeChar c)[p.length] = b := by simp [hchar]
            have hzero : p.length = 0 :=
              UInt8.isUTF8FirstByte_getElem_utf8EncodeChar.mp (hget.symm ▸ hb)
            obtain rfl := List.eq_nil_of_length_eq_zero hzero
            exact ⟨⟨[], rfl⟩, ⟨c :: cs, hcs⟩⟩

/-- What follows a character at the start of a text is a text. -/
theorem IsText.of_char {c : Char} {r : Bytes} (h : IsText (String.utf8EncodeChar c ++ r)) :
    IsText r := by
  rw [isText_iff_isValidUTF8] at h ⊢
  rwa [List.toByteArray_append, ← List.utf8Encode_singleton,
    ByteArray.isValidUTF8_utf8Encode_singleton_append_iff] at h

/-- What follows a text at the start of a text is a text. -/
theorem IsText.of_bytes_append {cs : List Char} {r : Bytes} (h : IsText (bytes cs ++ r)) :
    IsText r := by
  induction cs with
  | nil => exact h
  | cons c cs ih =>
      rw [bytes, List.flatMap_cons, List.append_assoc] at h
      exact ih h.of_char

/-- **What stands before a character of a text, and what stands behind it**, are texts. -/
theorem IsText.around {p r : Bytes} {c : Char} (h : IsText (p ++ (String.utf8EncodeChar c ++ r))) :
    IsText p ∧ IsText r := by
  obtain ⟨b, q, hbq, hfirst⟩ := exists_firstByte c
  rw [hbq, List.cons_append] at h
  obtain ⟨hp, hrest⟩ := h.split hfirst
  rw [← List.cons_append, ← hbq] at hrest
  exact ⟨hp, hrest.of_char⟩

/-- Bytes at the start of a text that are a text are its first characters. -/
theorem exists_of_bytes_eq_append {cs ps : List Char} {r : Bytes} (h : bytes cs = bytes ps ++ r) :
    ∃ ds, cs = ps ++ ds ∧ bytes ds = r := by
  obtain ⟨ds, rfl⟩ : IsText r := IsText.of_bytes_append (h ▸ isText_bytes cs)
  rw [← bytes_append] at h
  exact ⟨ds, bytes_injective h, rfl⟩

/-! ### Cuts at a byte -/

/-- What stands before the byte with the number `n`, if there are so many bytes and it does not
belong to the character before it. -/
def upTo? (n : Nat) (s : String) : Option String :=
  if n ≤ (encode s).length then decode ((encode s).take n) else none

/-- What stands from the byte with the number `n` on, if there are so many bytes and it does not
belong to the character before it. -/
def fromByte? (n : Nat) (s : String) : Option String :=
  if n ≤ (encode s).length then decode ((encode s).drop n) else none

theorem encode_append (s t : String) : encode (s ++ t) = encode s ++ encode t := by
  rw [← bytes_toList, String.toList_append, bytes_append, bytes_toList, bytes_toList]

/-- **A cut at a byte is a cut between characters.** -/
theorem upTo?_eq_some_iff {n : Nat} {s p : String} :
    upTo? n s = some p ↔ ∃ r, s = p ++ r ∧ (encode p).length = n := by
  rw [upTo?]
  constructor
  · intro h
    split at h
    · rename_i hn
      have hp : encode p = (encode s).take n := encode_of_decode h
      have hs : bytes s.toList = bytes p.toList ++ (encode s).drop n := by
        rw [bytes_toList, bytes_toList, hp, List.take_append_drop]
      obtain ⟨ds, hds, -⟩ := exists_of_bytes_eq_append hs
      refine ⟨String.ofList ds, ?_, by rw [hp, List.length_take, Nat.min_eq_left hn]⟩
      rw [← String.toList_inj, String.toList_append, hds, String.toList_ofList]
    · simp at h
  · rintro ⟨r, rfl, rfl⟩
    rw [encode_append, if_pos (by simp), List.take_left, decode_encode]

/-- What stands behind a part of a text is what stands from the byte behind the part on. -/
theorem fromByte?_append (p r : String) : fromByte? (encode p).length (p ++ r) = some r := by
  rw [fromByte?, encode_append, if_pos (by simp), List.drop_left, decode_encode]

end Onboarding.Utf8
