import Mathlib.Data.List.DropRight
import Mathlib.Data.List.TakeWhile
import Onboarding.Proofs.Json.Lexemes

/-!
# The reader reads the grammar

`Json.parse?` gives a value exactly if the bytes spell it. Towards the reader, `Json.ReadsAs` says
of a text that it is read to its end, with as many calls as it has bytes and whatever follows it,
as long as what follows does not go on with a number; each rule of the grammar keeps that. Away from
the reader, what `value`, `elements` and `members` give is spelled by the bytes they have taken, by
induction on the number of calls.

## Main results

* `Json.readsAs_of_spells`: what spells a value is read as it.
* `Json.spelled`: what is read spells the value it is read as.
* `Json.parse?_eq_some_iff`: a document is read as what it spells.
-/

namespace Onboarding.Json

open Lexeme (Ends)

/-! ### Blanks -/

theorem skipBlank_cons_of_not_blank {b : UInt8} (hb : isBlankByte b = false) (bs : Bytes) :
    skipBlank (b :: bs) = b :: bs :=
  List.dropWhile_cons_of_neg (by simp [hb])

theorem skipBlank_blanks {ws : Bytes} (hws : Blanks ws) (bs : Bytes) :
    skipBlank (ws ++ bs) = skipBlank bs :=
  List.dropWhile_append_of_pos hws

/-- The blanks in front, and what is left without them. -/
theorem exists_blanks (bs : Bytes) : ∃ ws, Blanks ws ∧ bs = ws ++ skipBlank bs := by
  refine ⟨bs.takeWhile isBlankByte, fun b hb => ?_, (List.takeWhile_append_dropWhile ..).symm⟩
  exact List.mem_takeWhile_imp hb

theorem exists_blanks_of_skipBlank {bs rest : Bytes} (h : skipBlank bs = rest) :
    ∃ ws, Blanks ws ∧ bs = ws ++ rest := by
  subst h
  exact exists_blanks bs

/-- Skipping blanks a second time skips none. -/
theorem skipBlank_skipBlank (bs : Bytes) : skipBlank (skipBlank bs) = skipBlank bs :=
  List.dropWhile_idempotent _ _

/-- No number goes on over blanks. -/
theorem ends_blanks {ws rest : Bytes} (hws : Blanks ws) (hrest : Ends rest) :
    Ends (ws ++ rest) := by
  cases ws with
  | nil => exact hrest
  | cons w ws =>
      refine Lexeme.ends_cons ?_ _
      have hblank : isBlankByte w = true := hws w (List.mem_cons_self ..)
      simp only [isBlankByte, Bool.or_eq_true, beq_iff_eq] at hblank
      rcases hblank with ((rfl | rfl) | rfl) | rfl <;> decide

theorem value_congr {bs bs' : Bytes} (h : skipBlank bs = skipBlank bs') (fuel depth : Nat) :
    value fuel depth bs = value fuel depth bs' := by
  cases fuel with
  | zero => rw [value, value]
  | succ fuel => rw [value, value, h]

theorem elements_congr {bs bs' : Bytes} (h : skipBlank bs = skipBlank bs') (fuel depth : Nat) :
    elements fuel depth bs = elements fuel depth bs' := by
  cases fuel with
  | zero => rw [elements, elements]
  | succ fuel => rw [elements, elements, value_congr h]

theorem members_congr {bs bs' : Bytes} (h : skipBlank bs = skipBlank bs') (fuel depth : Nat) :
    members fuel depth bs = members fuel depth bs' := by
  cases fuel with
  | zero => rw [members, members]
  | succ fuel => rw [members, members, name, name, h]

/-! ### Words -/

theorem encode_null : Utf8.encode "null" = [0x6E, 0x75, 0x6C, 0x6C] := by decide +kernel

theorem encode_true : Utf8.encode "true" = [0x74, 0x72, 0x75, 0x65] := by decide +kernel

theorem encode_false : Utf8.encode "false" = [0x66, 0x61, 0x6C, 0x73, 0x65] := by decide +kernel

/-- A word is read, whatever follows it, and its first byte starts no other value. -/
theorem constant_append {w : String} {v : Json} (hw : (w, v) ∈ words) (rest : Bytes) :
    ∃ b t, Utf8.encode w = b :: t ∧ isBlankByte b = false ∧ b ∉ [0x22, 0x5B, 0x7B, 0x2D] ∧
      (Lexeme.digit? b).isSome = false ∧ constant (b :: t ++ rest) = some (v, rest) := by
  simp only [words, List.mem_cons, Prod.mk.injEq, List.not_mem_nil, or_false] at hw
  rcases hw with ⟨rfl, rfl⟩ | ⟨rfl, rfl⟩ | ⟨rfl, rfl⟩
  · exact ⟨_, _, encode_null, by decide, by decide, by decide,
      by simp [constant, expect, encode_null]⟩
  · exact ⟨_, _, encode_true, by decide, by decide, by decide,
      by simp [constant, expect, encode_null, encode_true]⟩
  · exact ⟨_, _, encode_false, by decide, by decide, by decide,
      by simp [constant, expect, encode_null, encode_true, encode_false]⟩

/-- What is read as a word spells it. -/
theorem mem_words_of_constant {bs rest : Bytes} {v : Json} (h : constant bs = some (v, rest)) :
    ∃ w, (w, v) ∈ words ∧ bs = Utf8.encode w ++ rest := by
  have hexpect {w : String} {u : Json} (hmap : (expect (Utf8.encode w) bs).map (u, ·) =
      some (v, rest)) : v = u ∧ bs = Utf8.encode w ++ rest := by
    obtain ⟨r, hr, heq⟩ := Option.map_eq_some_iff.mp hmap
    obtain ⟨rfl, rfl⟩ := Prod.mk.inj heq
    rw [expect] at hr
    split at hr
    · rename_i hprefix
      obtain ⟨t, rfl⟩ := List.isPrefixOf_iff_prefix.mp hprefix
      refine ⟨rfl, ?_⟩
      rw [← Option.some.inj hr, List.drop_left]
    · simp at hr
  rw [constant, Option.or_eq_some_iff, Option.or_eq_some_iff] at h
  rcases h with h | ⟨-, h | ⟨-, h⟩⟩
  all_goals
    obtain ⟨rfl, hbs⟩ := hexpect h
    exact ⟨_, by simp [words], hbs⟩

/-! ### Reading what is spelled -/

/-- A text is read as a value to its end but for blanks, whatever follows it. It
takes as many calls as the text has bytes at most. -/
def ReadsAs (depth : Nat) (t : Bytes) (v : Json) : Prop :=
  ∀ fuel rest, t.length ≤ fuel → Ends rest →
    ∃ r, value fuel depth (t ++ rest) = some (v, r) ∧ skipBlank r = skipBlank rest

/-- The first byte of a number is no blank, and starts nothing else. -/
theorem start_of_number {b : UInt8} (hb : b = 0x2D ∨ (Lexeme.digit? b).isSome) :
    isBlankByte b = false ∧ b ≠ 0x22 ∧ b ≠ 0x5B ∧ b ≠ 0x7B := by
  have hne (c : UInt8) (hc : ¬(c = 0x2D ∨ (Lexeme.digit? c).isSome)) : b ≠ c := by
    rintro rfl
    exact hc hb
  refine ⟨?_, hne _ (by decide), hne _ (by decide), hne _ (by decide)⟩
  simp [isBlankByte, hne 0x20 (by decide), hne 0x09 (by decide), hne 0x0A (by decide),
    hne 0x0D (by decide)]

theorem readsAs_blank {depth : Nat} {before t after : Bytes} {v : Json} (hbefore : Blanks before)
    (hafter : Blanks after) (h : ReadsAs depth t v) :
    ReadsAs depth (before ++ (t ++ after)) v := by
  intro fuel rest hfuel hrest
  have hlength : t.length ≤ fuel := by
    simp only [List.length_append] at hfuel
    omega
  obtain ⟨r, hvalue, hr⟩ := h fuel (after ++ rest) hlength (ends_blanks hafter hrest)
  refine ⟨r, ?_, by rw [hr, skipBlank_blanks hafter]⟩
  rw [← hvalue, List.append_assoc, List.append_assoc]
  exact value_congr (skipBlank_blanks hbefore _) ..

theorem readsAs_word {depth : Nat} {w : String} {v : Json} (hw : (w, v) ∈ words) :
    ReadsAs depth (Utf8.encode w) v := by
  intro fuel rest hfuel hrest
  obtain ⟨b, t, hencode, hblank, hstart, hdigit, hconstant⟩ := constant_append hw rest
  obtain ⟨hquote, hbracket, hbrace, hminus⟩ : b ≠ 0x22 ∧ b ≠ 0x5B ∧ b ≠ 0x7B ∧ b ≠ 0x2D := by
    simpa using hstart
  rw [hencode] at hfuel ⊢
  cases fuel with
  | zero => simp at hfuel
  | succ fuel =>
      refine ⟨rest, ?_, rfl⟩
      rw [List.cons_append, value, skipBlank_cons_of_not_blank hblank]
      simpa [hquote, hbracket, hbrace, hminus, hdigit] using hconstant

theorem readsAs_number {depth : Nat} {t : Bytes} {x : Lexeme} {n : JsonNumber}
    (ht : Lexeme.Spells t x) (hn : x.value? = some n) : ReadsAs depth t (number n) := by
  intro fuel rest hfuel hrest
  have hscan := Lexeme.scan_append ht hrest
  obtain ⟨b, u, rfl, hb⟩ := ht.exists_cons
  obtain ⟨hblank, hquote, hbracket, hbrace⟩ := start_of_number hb
  cases fuel with
  | zero => simp at hfuel
  | succ fuel =>
      refine ⟨rest, ?_, rfl⟩
      rw [List.cons_append] at hscan ⊢
      rw [value, skipBlank_cons_of_not_blank hblank]
      simp [hquote, hbracket, hbrace, hb, numeral, hscan, hn]

theorem readsAs_text {depth : Nat} {t : Bytes} {s : String}
    (ht : JsonText.Spells t (Utf8.encode s)) :
    ReadsAs depth (0x22 :: (t ++ [0x22])) (text s) := by
  intro fuel rest hfuel hrest
  have hread : JsonText.read (t ++ 0x22 :: rest) = some (s, rest) :=
    JsonText.read_eq_some_iff.mpr ⟨t, rfl, ht⟩
  cases fuel with
  | zero => simp at hfuel
  | succ fuel =>
      refine ⟨rest, ?_, rfl⟩
      rw [List.cons_append, value, skipBlank_cons_of_not_blank rfl]
      simp [hread]

/-! ### Arrays and objects -/

theorem separated_cons_cons (t u : Bytes) (ts : List Bytes) :
    separated (t :: u :: ts) = t ++ 0x2C :: separated (u :: ts) := by
  simp [separated, List.intercalate]

@[simp] theorem separated_singleton (t : Bytes) : separated [t] = t := by
  simp [separated, List.intercalate]

/-- No value starts with the bracket that ends an array. -/
theorem value_of_bracket {bs r : Bytes} (h : skipBlank bs = 0x5D :: r) (fuel depth : Nat) :
    value fuel depth bs = none := by
  cases fuel with
  | zero => rw [value]
  | succ fuel =>
      rw [value, h]
      simp [constant, expect, encode_null, encode_true, encode_false, Lexeme.digit?]

/-- Values with commas between them are read up to the bracket. -/
theorem elements_separated {depth : Nat} {items : List (Bytes × Json)} (hne : items ≠ [])
    (hitems : ∀ i ∈ items, ReadsAs depth i.1 i.2) {fuel : Nat}
    (hfuel : (separated (items.map Prod.fst)).length < fuel) (rest : Bytes) :
    elements fuel depth (separated (items.map Prod.fst) ++ 0x5D :: rest) =
      some (items.map Prod.snd, rest) := by
  induction items generalizing fuel with
  | nil => exact absurd rfl hne
  | cons i items ih =>
      obtain ⟨fuel, rfl⟩ : ∃ f, fuel = f + 1 := ⟨fuel - 1, by omega⟩
      have hi : ReadsAs depth i.1 i.2 := hitems i (List.mem_cons_self ..)
      cases items with
      | nil =>
          simp only [List.map_cons, List.map_nil, separated_singleton] at hfuel ⊢
          obtain ⟨r, hvalue, hr⟩ := hi fuel (0x5D :: rest) (by omega) (Lexeme.ends_cons (by decide) _)
          have hclose : skipBlank (0x5D :: rest) = 0x5D :: rest := rfl
          simp only [elements, hvalue, hr, hclose]
      | cons j items =>
          -- the comma pays for the call that the other values need
          simp only [List.map_cons, separated_cons_cons, List.length_append, List.length_cons,
            List.append_assoc, List.cons_append] at hfuel ⊢
          have htail : elements fuel depth (separated (j.1 :: items.map Prod.fst) ++ 0x5D :: rest) =
              some (j.2 :: items.map Prod.snd, rest) :=
            ih (by simp) (fun k hk => hitems k (List.mem_cons_of_mem _ hk))
              (by simp only [List.map_cons]; omega)
          obtain ⟨r, hvalue, hr⟩ := hi fuel
            (0x2C :: (separated (j.1 :: items.map Prod.fst) ++ 0x5D :: rest)) (by omega)
            (Lexeme.ends_cons (by decide) _)
          rw [skipBlank_cons_of_not_blank rfl] at hr
          simp only [elements, hvalue, hr, htail, Option.map_some]

theorem value_bracketed {fuel depth : Nat} {bs rest : Bytes} {vs : List Json}
    (h : elements fuel depth bs = some (vs, rest)) :
    value (fuel + 1) (depth + 1) (0x5B :: bs) = some (array vs, rest) := by
  rw [value, skipBlank_cons_of_not_blank rfl]
  dsimp only
  rw [if_neg (by decide), if_pos rfl]
  split
  · rename_i r hclose
    cases fuel with
    | zero => simp [elements] at h
    | succ fuel => simp [elements, value_of_bracket hclose] at h
  · rw [elements_congr (skipBlank_skipBlank bs), h]
    rfl

theorem readsAs_array {depth : Nat} {items : List (Bytes × Json)} (hne : items ≠ [])
    (hitems : ∀ i ∈ items, ReadsAs depth i.1 i.2) :
    ReadsAs (depth + 1) (0x5B :: (separated (items.map Prod.fst) ++ [0x5D]))
      (array (items.map Prod.snd)) := by
  intro fuel rest hfuel _
  obtain ⟨fuel, rfl⟩ : ∃ f, fuel = f + 1 := ⟨fuel - 1, by simp at hfuel; omega⟩
  have hlength : (separated (items.map Prod.fst)).length < fuel := by
    simp only [List.length_cons, List.length_append] at hfuel
    omega
  refine ⟨rest, ?_, rfl⟩
  have hread := value_bracketed (elements_separated hne hitems hlength rest)
  simpa using hread

/-- A name in quotes is read together with its colon. -/
theorem name_append {t : Bytes} {s : String} (h : SpellsName t s) (rest : Bytes) :
    name (t ++ 0x3A :: rest) = some (s, rest) := by
  obtain ⟨before, inner, after, hbefore, hafter, rfl, hinner⟩ := h
  have hread : JsonText.read (inner ++ 0x22 :: (after ++ 0x3A :: rest)) =
      some (s, after ++ 0x3A :: rest) := JsonText.read_eq_some_iff.mpr ⟨inner, rfl, hinner⟩
  have hcolon : skipBlank (after ++ 0x3A :: rest) = 0x3A :: rest := skipBlank_blanks hafter _
  have hquote : skipBlank (before ++ 0x22 :: (inner ++ 0x22 :: (after ++ 0x3A :: rest))) =
      0x22 :: (inner ++ 0x22 :: (after ++ 0x3A :: rest)) := skipBlank_blanks hbefore _
  simp [name, hquote, hread, hcolon]

/-- Members with commas between them are read up to the brace. -/
theorem members_separated {depth : Nat} {ms : List Member} (hne : ms ≠ [])
    (hnames : ∀ m ∈ ms, SpellsName m.label m.name)
    (hvalues : ∀ m ∈ ms, ReadsAs depth m.text m.value) {fuel : Nat}
    (hfuel : (separated (ms.map Member.spelling)).length < fuel) (rest : Bytes) :
    members fuel depth (separated (ms.map Member.spelling) ++ 0x7D :: rest) =
      some (ms.map Member.entry, rest) := by
  induction ms generalizing fuel with
  | nil => exact absurd rfl hne
  | cons m ms ih =>
      obtain ⟨fuel, rfl⟩ : ∃ f, fuel = f + 1 := ⟨fuel - 1, by omega⟩
      have hname (rest : Bytes) := name_append (hnames m (List.mem_cons_self ..)) rest
      have hm : ReadsAs depth m.text m.value := hvalues m (List.mem_cons_self ..)
      cases ms with
      | nil =>
          simp only [List.map_cons, List.map_nil, separated_singleton, Member.spelling,
            List.length_append, List.length_cons, List.append_assoc, List.cons_append] at hfuel ⊢
          obtain ⟨r, hvalue, hr⟩ := hm fuel (0x7D :: rest) (by omega)
            (Lexeme.ends_cons (by decide) _)
          have hclose : skipBlank (0x7D :: rest) = 0x7D :: rest := rfl
          simp only [members, hname, hvalue, hr, hclose, Member.entry]
      | cons l ms =>
          simp only [List.map_cons, separated_cons_cons, Member.spelling,
            List.length_append, List.length_cons, List.append_assoc, List.cons_append] at hfuel ⊢
          let behind := separated ((l.label ++ 0x3A :: l.text) :: ms.map Member.spelling)
          have htail : members fuel depth (behind ++ 0x7D :: rest) =
              some (l.entry :: ms.map Member.entry, rest) :=
            ih (by simp) (fun k hk => hnames k (List.mem_cons_of_mem _ hk))
              (fun k hk => hvalues k (List.mem_cons_of_mem _ hk))
              (by simp only [List.map_cons, Member.spelling]; omega)
          obtain ⟨r, hvalue, hr⟩ := hm fuel (0x2C :: (behind ++ 0x7D :: rest)) (by omega)
            (Lexeme.ends_cons (by decide) _)
          rw [skipBlank_cons_of_not_blank rfl] at hr
          simp only [members, hname, hvalue, hr, htail, Option.map_some, Member.entry, behind]

theorem value_braced {fuel depth : Nat} {bs rest : Bytes} {ms : List (String × Json)}
    (h : members fuel depth bs = some (ms, rest)) :
    value (fuel + 1) (depth + 1) (0x7B :: bs) = some (ofMembers ms, rest) := by
  rw [value, skipBlank_cons_of_not_blank rfl]
  dsimp only
  rw [if_neg (by decide), if_neg (by decide), if_pos rfl]
  split
  · rename_i r hclose
    cases fuel with
    | zero => simp [members] at h
    | succ fuel => simp [members, name, hclose] at h
  · rw [members_congr (skipBlank_skipBlank bs), h]
    rfl

theorem readsAs_object {depth : Nat} {ms : List Member} (hne : ms ≠ [])
    (hnames : ∀ m ∈ ms, SpellsName m.label m.name)
    (hvalues : ∀ m ∈ ms, ReadsAs depth m.text m.value) :
    ReadsAs (depth + 1) (0x7B :: (separated (ms.map Member.spelling) ++ [0x7D]))
      (ofMembers (ms.map Member.entry)) := by
  intro fuel rest hfuel _
  obtain ⟨fuel, rfl⟩ : ∃ f, fuel = f + 1 := ⟨fuel - 1, by simp at hfuel; omega⟩
  have hlength : (separated (ms.map Member.spelling)).length < fuel := by
    simp only [List.length_cons, List.length_append] at hfuel
    omega
  refine ⟨rest, ?_, rfl⟩
  have hread := value_braced (members_separated hne hnames hvalues hlength rest)
  simpa using hread

theorem readsAs_emptyArray {depth : Nat} {ws : Bytes} (hws : Blanks ws) :
    ReadsAs (depth + 1) (0x5B :: (ws ++ [0x5D])) (array []) := by
  intro fuel rest hfuel _
  obtain ⟨fuel, rfl⟩ : ∃ f, fuel = f + 1 := ⟨fuel - 1, by simp at hfuel; omega⟩
  have hclose : skipBlank (ws ++ 0x5D :: rest) = 0x5D :: rest := skipBlank_blanks hws _
  refine ⟨rest, ?_, rfl⟩
  rw [List.cons_append, List.append_assoc, value, skipBlank_cons_of_not_blank rfl]
  dsimp only [List.singleton_append]
  rw [if_neg (by decide), if_pos rfl]
  simp only [hclose]

theorem readsAs_emptyObject {depth : Nat} {ws : Bytes} (hws : Blanks ws) :
    ReadsAs (depth + 1) (0x7B :: (ws ++ [0x7D])) (object []) := by
  intro fuel rest hfuel _
  obtain ⟨fuel, rfl⟩ : ∃ f, fuel = f + 1 := ⟨fuel - 1, by simp at hfuel; omega⟩
  have hclose : skipBlank (ws ++ 0x7D :: rest) = 0x7D :: rest := skipBlank_blanks hws _
  refine ⟨rest, ?_, rfl⟩
  rw [List.cons_append, List.append_assoc, value, skipBlank_cons_of_not_blank rfl]
  dsimp only [List.singleton_append]
  rw [if_neg (by decide), if_neg (by decide), if_pos rfl]
  simp only [hclose]

/-- **What spells a value is read as it**, one rule of the grammar after the other. -/
theorem readsAs_of_spells {depth : Nat} {t : Bytes} {v : Json} (h : Spells depth t v) :
    ReadsAs depth t v := by
  induction h with
  | blank hbefore hafter _ ih => exact readsAs_blank hbefore hafter ih
  | word hw => exact readsAs_word hw
  | number ht hn => exact readsAs_number ht hn
  | text ht => exact readsAs_text ht
  | emptyArray hws => exact readsAs_emptyArray hws
  | array hne _ ih => exact readsAs_array hne ih
  | emptyObject hws => exact readsAs_emptyObject hws
  | object hne hnames _ ih => exact readsAs_object hne hnames ih

/-! ### What is read is spelled -/

/-- The values that are read with so many calls are spelled by what is taken for them. -/
def ValueSpelled (fuel : Nat) : Prop :=
  ∀ ⦃depth bs v rest⦄, value fuel depth bs = some (v, rest) →
    ∃ t, bs = t ++ rest ∧ Spells depth t v

/-- The same for values up to a bracket. -/
def ElementsSpelled (fuel : Nat) : Prop :=
  ∀ ⦃depth bs vs rest⦄, elements fuel depth bs = some (vs, rest) →
    ∃ items : List (Bytes × Json), items ≠ [] ∧ vs = items.map Prod.snd ∧
      bs = separated (items.map Prod.fst) ++ 0x5D :: rest ∧
      ∀ i ∈ items, Spells depth i.1 i.2

/-- The same for members up to a brace. -/
def MembersSpelled (fuel : Nat) : Prop :=
  ∀ ⦃depth bs entries rest⦄, members fuel depth bs = some (entries, rest) →
    ∃ ms : List Member, ms ≠ [] ∧ entries = ms.map Member.entry ∧
      bs = separated (ms.map Member.spelling) ++ 0x7D :: rest ∧
      ∀ m ∈ ms, SpellsName m.label m.name ∧ Spells depth m.text m.value

theorem Spells.blanksBefore {depth : Nat} {ws t : Bytes} {v : Json} (hws : Blanks ws)
    (h : Spells depth t v) : Spells depth (ws ++ t) v := by
  simpa using Spells.blank hws .nil h

theorem Spells.blanksAfter {depth : Nat} {ws t : Bytes} {v : Json} (hws : Blanks ws)
    (h : Spells depth t v) : Spells depth (t ++ ws) v := by
  simpa using Spells.blank .nil hws h

theorem spelled_numeral {depth : Nat} {bs rest : Bytes} {v : Json}
    (h : numeral bs = some (v, rest)) : ∃ t, bs = t ++ rest ∧ Spells depth t v := by
  obtain ⟨⟨x, r⟩, hscan, h⟩ := Option.bind_eq_some_iff.mp h
  obtain ⟨n, hn, h⟩ := Option.bind_eq_some_iff.mp h
  obtain ⟨rfl, rfl⟩ := Prod.mk.inj (Option.some.inj h)
  obtain ⟨t, ht, hx⟩ := Lexeme.spells_of_scan hscan
  exact ⟨t, ht, .number hx hn⟩

/-- What stands between brackets: blanks, or values with commas between them. -/
theorem spelled_array {fuel depth : Nat} (ih : ElementsSpelled fuel) {bs rest : Bytes} {v : Json}
    (h : (match skipBlank bs with
      | 0x5D :: r => some (array [], r)
      | r => (elements fuel depth r).map fun (items, r) => (array items, r)) = some (v, rest)) :
    ∃ t, 0x5B :: bs = t ++ rest ∧ Spells (depth + 1) t v := by
  split at h
  · rename_i r hclose
    obtain ⟨rfl, rfl⟩ := Prod.mk.inj (Option.some.inj h)
    obtain ⟨ws, hws, rfl⟩ := exists_blanks_of_skipBlank hclose
    exact ⟨0x5B :: (ws ++ [0x5D]), by simp, .emptyArray hws⟩
  · rw [elements_congr (skipBlank_skipBlank bs)] at h
    obtain ⟨⟨vs, r⟩, helements, heq⟩ := Option.map_eq_some_iff.mp h
    obtain ⟨rfl, rfl⟩ := Prod.mk.inj heq
    obtain ⟨items, hne, rfl, rfl, hitems⟩ := ih helements
    exact ⟨_, by simp, .array hne hitems⟩

/-- What stands between braces: blanks, or members with commas between them. -/
theorem spelled_object {fuel depth : Nat} (ih : MembersSpelled fuel) {bs rest : Bytes} {v : Json}
    (h : (match skipBlank bs with
      | 0x7D :: r => some (object [], r)
      | r => (members fuel depth r).map fun (ms, r) => (ofMembers ms, r)) = some (v, rest)) :
    ∃ t, 0x7B :: bs = t ++ rest ∧ Spells (depth + 1) t v := by
  split at h
  · rename_i r hclose
    obtain ⟨rfl, rfl⟩ := Prod.mk.inj (Option.some.inj h)
    obtain ⟨ws, hws, rfl⟩ := exists_blanks_of_skipBlank hclose
    exact ⟨0x7B :: (ws ++ [0x7D]), by simp, .emptyObject hws⟩
  · rw [members_congr (skipBlank_skipBlank bs)] at h
    obtain ⟨⟨entries, r⟩, hmembers, heq⟩ := Option.map_eq_some_iff.mp h
    obtain ⟨rfl, rfl⟩ := Prod.mk.inj heq
    obtain ⟨ms, hne, rfl, rfl, hms⟩ := ih hmembers
    exact ⟨_, by simp, .object hne (fun m hm => (hms m hm).1) fun m hm => (hms m hm).2⟩

theorem valueSpelled_succ {fuel : Nat} (helements : ElementsSpelled fuel)
    (hmembers : MembersSpelled fuel) : ValueSpelled (fuel + 1) := by
  intro depth bs v rest h
  suffices hs : ∃ t, skipBlank bs = t ++ rest ∧ Spells depth t v by
    obtain ⟨t, hbs, ht⟩ := hs
    obtain ⟨ws, hws, rfl⟩ := exists_blanks_of_skipBlank hbs
    exact ⟨ws ++ t, by simp, ht.blanksBefore hws⟩
  rw [value] at h
  cases hbs : skipBlank bs with
  | nil => simp [hbs] at h
  | cons b r =>
      rw [hbs] at h
      dsimp only at h
      split_ifs at h with hquote hbracket hbrace hnumber
      · obtain ⟨⟨s, r'⟩, hread, heq⟩ := Option.map_eq_some_iff.mp h
        obtain ⟨rfl, rfl⟩ := Prod.mk.inj heq
        obtain ⟨t, rfl, ht⟩ := JsonText.read_eq_some_iff.mp hread
        exact ⟨0x22 :: (t ++ [0x22]), by simp [hquote], .text ht⟩
      · subst hbracket
        cases depth with
        | zero => simp at h
        | succ depth => exact spelled_array helements h
      · subst hbrace
        cases depth with
        | zero => simp at h
        | succ depth => exact spelled_object hmembers h
      · exact spelled_numeral h
      · obtain ⟨w, hw, hbr⟩ := mem_words_of_constant h
        exact ⟨Utf8.encode w, hbr, .word hw⟩

/-- The bytes of a name up to its colon spell it. -/
theorem spelled_name {bs rest : Bytes} {s : String} (h : name bs = some (s, rest)) :
    ∃ t, bs = t ++ 0x3A :: rest ∧ SpellsName t s := by
  rw [name] at h
  split at h
  · rename_i r hquote
    split at h
    · rename_i s' r' hread
      split at h
      · rename_i r'' hcolon
        obtain ⟨rfl, rfl⟩ := Prod.mk.inj (Option.some.inj h)
        obtain ⟨inner, rfl, hinner⟩ := JsonText.read_eq_some_iff.mp hread
        obtain ⟨before, hbefore, rfl⟩ := exists_blanks_of_skipBlank hquote
        obtain ⟨after, hafter, rfl⟩ := exists_blanks_of_skipBlank hcolon
        exact ⟨before ++ 0x22 :: (inner ++ 0x22 :: after), by simp, before, inner, after, hbefore,
          hafter, rfl, hinner⟩
      · simp at h
    · simp at h
  · simp at h

theorem elementsSpelled_succ {fuel : Nat} (hvalue : ValueSpelled fuel)
    (ih : ElementsSpelled fuel) : ElementsSpelled (fuel + 1) := by
  intro depth bs vs rest h
  rw [elements] at h
  split at h
  · simp at h
  · rename_i v r hv
    obtain ⟨t, rfl, ht⟩ := hvalue hv
    split at h
    · rename_i r' hcomma
      obtain ⟨⟨vs', rest'⟩, htail, heq⟩ := Option.map_eq_some_iff.mp h
      obtain ⟨rfl, rfl⟩ := Prod.mk.inj heq
      obtain ⟨ws, hws, rfl⟩ := exists_blanks_of_skipBlank hcomma
      obtain ⟨items, hne, rfl, rfl, hitems⟩ := ih htail
      obtain ⟨i, items, rfl⟩ := List.exists_cons_of_ne_nil hne
      refine ⟨(t ++ ws, v) :: i :: items, by simp, rfl, ?_, ?_⟩
      · simp [separated_cons_cons]
      · exact List.forall_mem_cons.mpr ⟨ht.blanksAfter hws, hitems⟩
    · rename_i r' hclose
      obtain ⟨rfl, rfl⟩ := Prod.mk.inj (Option.some.inj h)
      obtain ⟨ws, hws, rfl⟩ := exists_blanks_of_skipBlank hclose
      refine ⟨[(t ++ ws, v)], by simp, rfl, by simp, ?_⟩
      exact List.forall_mem_singleton.mpr (ht.blanksAfter hws)
    · simp at h

theorem membersSpelled_succ {fuel : Nat} (hvalue : ValueSpelled fuel)
    (ih : MembersSpelled fuel) : MembersSpelled (fuel + 1) := by
  intro depth bs entries rest h
  rw [members] at h
  split at h
  · simp at h
  · rename_i s r hs
    obtain ⟨label, rfl, hlabel⟩ := spelled_name hs
    split at h
    · simp at h
    · rename_i v r' hv
      obtain ⟨t, rfl, ht⟩ := hvalue hv
      split at h
      · rename_i r'' hcomma
        obtain ⟨⟨entries', rest'⟩, htail, heq⟩ := Option.map_eq_some_iff.mp h
        obtain ⟨rfl, rfl⟩ := Prod.mk.inj heq
        obtain ⟨ws, hws, rfl⟩ := exists_blanks_of_skipBlank hcomma
        obtain ⟨ms, hne, rfl, rfl, hms⟩ := ih htail
        obtain ⟨m, ms, rfl⟩ := List.exists_cons_of_ne_nil hne
        refine ⟨⟨label, s, t ++ ws, v⟩ :: m :: ms, by simp, rfl, ?_, ?_⟩
        · simp [separated_cons_cons, Member.spelling]
        · exact List.forall_mem_cons.mpr ⟨⟨hlabel, ht.blanksAfter hws⟩, hms⟩
      · rename_i r'' hclose
        obtain ⟨rfl, rfl⟩ := Prod.mk.inj (Option.some.inj h)
        obtain ⟨ws, hws, rfl⟩ := exists_blanks_of_skipBlank hclose
        refine ⟨[⟨label, s, t ++ ws, v⟩], by simp, rfl, by simp [Member.spelling], ?_⟩
        exact List.forall_mem_singleton.mpr ⟨hlabel, ht.blanksAfter hws⟩
      · simp at h

/-- **What is read spells the value it is read as**, by induction on the number of calls. -/
theorem spelled (fuel : Nat) :
    ValueSpelled fuel ∧ ElementsSpelled fuel ∧ MembersSpelled fuel := by
  induction fuel with
  | zero =>
      refine ⟨fun _ _ _ _ h => ?_, fun _ _ _ _ h => ?_, fun _ _ _ _ h => ?_⟩
      · simp [value] at h
      · simp [elements] at h
      · simp [members] at h
  | succ fuel ih =>
      obtain ⟨hvalue, helements, hmembers⟩ := ih
      exact ⟨valueSpelled_succ helements hmembers, elementsSpelled_succ hvalue helements,
        membersSpelled_succ hvalue hmembers⟩

/-! ### Documents -/

/-- **A document is read** exactly as what it spells, and is refused if it spells nothing. -/
theorem parse?_eq_some_iff {bs : Bytes} {v : Json} : parse? bs = some v ↔ Spells maxDepth bs v := by
  constructor
  · intro h
    rw [parse?] at h
    split at h
    · rename_i v' r hvalue
      split at h
      · rename_i hend
        obtain rfl := Option.some.inj h
        obtain ⟨t, rfl, ht⟩ := (spelled _).1 hvalue
        obtain ⟨ws, hws, rfl⟩ := exists_blanks_of_skipBlank (List.isEmpty_iff.mp hend)
        rw [List.append_nil]
        exact ht.blanksAfter hws
      · simp at h
    · simp at h
  · intro h
    have hlength : bs.length ≤ enough bs := by
      rw [enough]
      omega
    obtain ⟨r, hvalue, hr⟩ := readsAs_of_spells h (enough bs) [] hlength (by simp [Ends])
    have hempty : skipBlank r = [] := hr
    rw [List.append_nil] at hvalue
    simp [parse?, hvalue, hempty]

end Onboarding.Json
