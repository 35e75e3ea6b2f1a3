import Onboarding.Json.Skip
import Onboarding.Proofs.Json.Documents

/-!
# JSON texts that nobody looks at

A value that is skipped needs no meaning. Its syntax is the grammar of JSON texts without what makes
a text a value: escapes may be halves of pairs, bytes between quotes need not be UTF-8, a number may
be of any size, and nothing is too deep. `Json.skip` skips what has this syntax and nothing else,
and stops where it ends, so a text has one end only (`Json.WellFormed.eq_of_append_eq`).

## Main results

* `Json.skips_of_wellFormed`: what has the syntax is skipped to its end.
* `Json.skipped`: what is skipped has the syntax.
* `Json.WellFormed.eq_of_append_eq`: a value has one end only.
* `Json.spellsName_iff`, `Json.wellFormed_iff`: names and the syntax of values can be decided.
-/

namespace Onboarding

/-! ### Between quotes -/

namespace JsonText

/-- What may stand between quotes that nobody looks into. -/
inductive WellFormed : Bytes → Prop where
  | nil : WellFormed []
  | plain {b : UInt8} {t : Bytes} (hb : IsInner b) : WellFormed t → WellFormed (b :: t)
  | escape {e : UInt8} {t : Bytes} (he : (escaped? e).isSome = true) :
      WellFormed t → WellFormed (0x5C :: e :: t)
  | unit {h₁ h₂ h₃ h₄ : UInt8} {t : Bytes} (hu : (unit? h₁ h₂ h₃ h₄).isSome = true) :
      WellFormed t → WellFormed (0x5C :: 0x75 :: h₁ :: h₂ :: h₃ :: h₄ :: t)

theorem WellFormed.of_spells {t bs : Bytes} (h : Spells t bs) : WellFormed t := by
  induction h with
  | nil => exact .nil
  | plain hb _ ih => exact .plain hb ih
  | escape he _ ih => exact .escape (by simp [he]) ih
  | unit hu _ _ _ ih => exact .unit (by simp [hu]) ih
  | pair hu _ hv _ _ ih => exact .unit (by simp [hu]) (.unit (by simp [hv]) ih)

theorem skip_append {t : Bytes} (h : WellFormed t) (rest : Bytes) :
    skip (t ++ 0x22 :: rest) = some rest := by
  induction h with
  | nil =>
      rw [List.nil_append, skip.eq_def]
      rfl
  | plain hb _ ih =>
      obtain ⟨hquote, hslash, hcontrol⟩ := hb
      rw [List.cons_append, skip.eq_def]
      simp only [hquote, hslash, hcontrol, if_false, ih]
  | @escape e t he _ ih =>
      have hunit : e ≠ 0x75 := by
        rintro rfl
        simp [escaped?] at he
      rw [List.cons_append, skip.eq_def]
      simp [hunit, he, ih]
  | unit hu _ ih =>
      rw [List.cons_append, skip.eq_def]
      simp [hu, ih]

theorem wellFormed_of_skip {input rest : Bytes} (h : skip input = some rest) :
    ∃ t, input = t ++ 0x22 :: rest ∧ WellFormed t := by
  fun_induction skip input with
  | case2 r =>
      obtain rfl := Option.some.inj h
      exact ⟨[], rfl, .nil⟩
  | case4 h₁ h₂ h₃ h₄ r hu _ ih =>
      obtain ⟨t, rfl, ht⟩ := ih h
      exact ⟨_, rfl, .unit hu ht⟩
  | case7 e r _ he _ ih =>
      obtain ⟨t, rfl, ht⟩ := ih h
      exact ⟨_, rfl, .escape he ht⟩
  | case10 b r hquote hslash hcontrol ih =>
      obtain ⟨t, rfl, ht⟩ := ih h
      exact ⟨_, rfl, .plain ⟨hquote, hslash, hcontrol⟩ ht⟩
  | _ => simp at h

end JsonText

/-! ### Values -/

namespace Json

open Lexeme (Ends)

/-- A name in quotes that nobody looks into, with blanks around it. -/
def IsLabel (t : Bytes) : Prop :=
  ∃ before inner after, Blanks before ∧ Blanks after ∧
    t = before ++ 0x22 :: (inner ++ 0x22 :: after) ∧ JsonText.WellFormed inner

/-- What has the syntax of a value. A member is a label with the text behind its colon. -/
inductive WellFormed : Bytes → Prop where
  | blank {before t after : Bytes} (hbefore : Blanks before) (hafter : Blanks after) :
      WellFormed t → WellFormed (before ++ (t ++ after))
  | word {w : String} {v : Json} (hw : (w, v) ∈ words) : WellFormed (Utf8.encode w)
  | number {t : Bytes} {x : Lexeme} (ht : Lexeme.Spells t x) : WellFormed t
  | text {t : Bytes} (ht : JsonText.WellFormed t) : WellFormed (0x22 :: (t ++ [0x22]))
  | emptyArray {ws : Bytes} (hws : Blanks ws) : WellFormed (0x5B :: (ws ++ [0x5D]))
  | array {items : List Bytes} (hne : items ≠ []) (hitems : ∀ t ∈ items, WellFormed t) :
      WellFormed (0x5B :: (separated items ++ [0x5D]))
  | emptyObject {ws : Bytes} (hws : Blanks ws) : WellFormed (0x7B :: (ws ++ [0x7D]))
  | object {members : List (Bytes × Bytes)} (hne : members ≠ [])
      (hlabels : ∀ m ∈ members, IsLabel m.1) (htexts : ∀ m ∈ members, WellFormed m.2) :
      WellFormed (0x7B :: (separated (members.map fun m => m.1 ++ 0x3A :: m.2) ++ [0x7D]))

theorem IsLabel.of_spells {t : Bytes} {name : String} (h : SpellsName t name) : IsLabel t := by
  obtain ⟨before, inner, after, hbefore, hafter, rfl, hinner⟩ := h
  exact ⟨before, inner, after, hbefore, hafter, rfl, .of_spells hinner⟩

theorem WellFormed.blanksBefore {ws t : Bytes} (hws : Blanks ws) (h : WellFormed t) :
    WellFormed (ws ++ t) := by
  simpa using WellFormed.blank hws .nil h

theorem WellFormed.blanksAfter {ws t : Bytes} (hws : Blanks ws) (h : WellFormed t) :
    WellFormed (t ++ ws) := by
  simpa using WellFormed.blank .nil hws h

/-! ### Skipping what has the syntax -/

theorem skip_congr {bs bs' : Bytes} (h : skipBlank bs = skipBlank bs') (fuel : Nat) :
    skip fuel bs = skip fuel bs' := by
  cases fuel with
  | zero => rw [skip, skip]
  | succ fuel => rw [skip, skip, h]

theorem skipElements_congr {bs bs' : Bytes} (h : skipBlank bs = skipBlank bs') (fuel : Nat) :
    skipElements fuel bs = skipElements fuel bs' := by
  cases fuel with
  | zero => rw [skipElements, skipElements]
  | succ fuel => rw [skipElements, skipElements, skip_congr h]

theorem skipMembers_congr {bs bs' : Bytes} (h : skipBlank bs = skipBlank bs') (fuel : Nat) :
    skipMembers fuel bs = skipMembers fuel bs' := by
  cases fuel with
  | zero => rw [skipMembers, skipMembers]
  | succ fuel => rw [skipMembers, skipMembers, skipName, skipName, h]

/-- A text is skipped to its end but for blanks, whatever follows it. It takes as many calls as the
text has bytes at most. -/
def Skips (t : Bytes) : Prop :=
  ∀ fuel rest, t.length ≤ fuel → Ends rest →
    ∃ r, skip fuel (t ++ rest) = some r ∧ skipBlank r = skipBlank rest

theorem skips_blank {before t after : Bytes} (hbefore : Blanks before) (hafter : Blanks after)
    (h : Skips t) : Skips (before ++ (t ++ after)) := by
  intro fuel rest hfuel hrest
  have hlength : t.length ≤ fuel := by
    simp only [List.length_append] at hfuel
    omega
  obtain ⟨r, hskip, hr⟩ := h fuel (after ++ rest) hlength (ends_blanks hafter hrest)
  refine ⟨r, ?_, by rw [hr, skipBlank_blanks hafter]⟩
  rw [← hskip, List.append_assoc, List.append_assoc]
  exact skip_congr (skipBlank_blanks hbefore _) fuel

theorem skips_word {w : String} {v : Json} (hw : (w, v) ∈ words) : Skips (Utf8.encode w) := by
  intro fuel rest hfuel _
  obtain ⟨b, t, hencode, hblank, hstart, hdigit, hconstant⟩ := constant_append hw rest
  obtain ⟨hquote, hbracket, hbrace, hminus⟩ : b ≠ 0x22 ∧ b ≠ 0x5B ∧ b ≠ 0x7B ∧ b ≠ 0x2D := by
    simpa using hstart
  rw [hencode] at hfuel ⊢
  cases fuel with
  | zero => simp at hfuel
  | succ fuel =>
      refine ⟨rest, ?_, rfl⟩
      rw [List.cons_append] at hconstant ⊢
      rw [skip, skipBlank_cons_of_not_blank hblank]
      simp [hquote, hbracket, hbrace, hminus, hdigit, hconstant]

theorem skips_number {t : Bytes} {x : Lexeme} (ht : Lexeme.Spells t x) : Skips t := by
  intro fuel rest hfuel hrest
  have hscan := Lexeme.scan_append ht hrest
  obtain ⟨b, u, rfl, hb⟩ := ht.exists_cons
  obtain ⟨hblank, hquote, hbracket, hbrace⟩ := start_of_number hb
  cases fuel with
  | zero => simp at hfuel
  | succ fuel =>
      refine ⟨rest, ?_, rfl⟩
      rw [List.cons_append] at hscan ⊢
      rw [skip, skipBlank_cons_of_not_blank hblank]
      simp [hquote, hbracket, hbrace, hb, hscan]

theorem skips_text {t : Bytes} (ht : JsonText.WellFormed t) : Skips (0x22 :: (t ++ [0x22])) := by
  intro fuel rest hfuel _
  cases fuel with
  | zero => simp at hfuel
  | succ fuel =>
      refine ⟨rest, ?_, rfl⟩
      rw [List.cons_append, skip, skipBlank_cons_of_not_blank rfl]
      simp [JsonText.skip_append ht]

theorem skips_emptyArray {ws : Bytes} (hws : Blanks ws) : Skips (0x5B :: (ws ++ [0x5D])) := by
  intro fuel rest hfuel _
  obtain ⟨fuel, rfl⟩ : ∃ f, fuel = f + 1 := ⟨fuel - 1, by simp at hfuel; omega⟩
  have hclose : skipBlank (ws ++ 0x5D :: rest) = 0x5D :: rest := skipBlank_blanks hws _
  refine ⟨rest, ?_, rfl⟩
  rw [List.cons_append, List.append_assoc, skip, skipBlank_cons_of_not_blank rfl]
  dsimp only [List.singleton_append]
  rw [if_neg (by decide), if_pos rfl]
  simp only [hclose]

theorem skips_emptyObject {ws : Bytes} (hws : Blanks ws) : Skips (0x7B :: (ws ++ [0x7D])) := by
  intro fuel rest hfuel _
  obtain ⟨fuel, rfl⟩ : ∃ f, fuel = f + 1 := ⟨fuel - 1, by simp at hfuel; omega⟩
  have hclose : skipBlank (ws ++ 0x7D :: rest) = 0x7D :: rest := skipBlank_blanks hws _
  refine ⟨rest, ?_, rfl⟩
  rw [List.cons_append, List.append_assoc, skip, skipBlank_cons_of_not_blank rfl]
  dsimp only [List.singleton_append]
  rw [if_neg (by decide), if_neg (by decide), if_pos rfl]
  simp only [hclose]

/-- Values with commas between them are skipped up to the bracket. -/
theorem skipElements_separated {items : List Bytes} (hne : items ≠ [])
    (hitems : ∀ t ∈ items, Skips t) {fuel : Nat} (hfuel : (separated items).length < fuel)
    (rest : Bytes) : skipElements fuel (separated items ++ 0x5D :: rest) = some rest := by
  induction items generalizing fuel with
  | nil => exact absurd rfl hne
  | cons t items ih =>
      obtain ⟨fuel, rfl⟩ : ∃ f, fuel = f + 1 := ⟨fuel - 1, by omega⟩
      have ht : Skips t := hitems t (List.mem_cons_self ..)
      cases items with
      | nil =>
          rw [separated_singleton] at hfuel ⊢
          obtain ⟨r, hskip, hr⟩ := ht fuel (0x5D :: rest) (by omega)
            (Lexeme.ends_cons (by decide) _)
          have hclose : skipBlank (0x5D :: rest) = 0x5D :: rest := rfl
          simp only [skipElements, hskip, hr, hclose]
      | cons u items =>
          -- the comma pays for the call that the other values need
          simp only [separated_cons_cons, List.length_append, List.length_cons, List.append_assoc,
            List.cons_append] at hfuel ⊢
          have htail : skipElements fuel (separated (u :: items) ++ 0x5D :: rest) = some rest :=
            ih (by simp) (fun k hk => hitems k (List.mem_cons_of_mem _ hk)) (by omega)
          obtain ⟨r, hskip, hr⟩ := ht fuel (0x2C :: (separated (u :: items) ++ 0x5D :: rest))
            (by omega) (Lexeme.ends_cons (by decide) _)
          rw [skipBlank_cons_of_not_blank rfl] at hr
          simp only [skipElements, hskip, hr, htail]

/-- No value starts with the bracket that ends an array. -/
theorem skip_of_bracket {bs r : Bytes} (h : skipBlank bs = 0x5D :: r) (fuel : Nat) :
    skip fuel bs = none := by
  cases fuel with
  | zero => rw [skip]
  | succ fuel =>
      rw [skip, h]
      simp [constant, expect, encode_null, encode_true, encode_false, Lexeme.digit?]

theorem skip_bracketed {fuel : Nat} {bs rest : Bytes} (h : skipElements fuel bs = some rest) :
    skip (fuel + 1) (0x5B :: bs) = some rest := by
  rw [skip, skipBlank_cons_of_not_blank rfl]
  dsimp only
  rw [if_neg (by decide), if_pos rfl]
  split
  · rename_i r hclose
    cases fuel with
    | zero => simp [skipElements] at h
    | succ fuel => simp [skipElements, skip_of_bracket hclose] at h
  · rw [skipElements_congr (skipBlank_skipBlank bs), h]

theorem skips_array {items : List Bytes} (hne : items ≠ []) (hitems : ∀ t ∈ items, Skips t) :
    Skips (0x5B :: (separated items ++ [0x5D])) := by
  intro fuel rest hfuel _
  obtain ⟨fuel, rfl⟩ : ∃ f, fuel = f + 1 := ⟨fuel - 1, by simp at hfuel; omega⟩
  have hlength : (separated items).length < fuel := by
    simp only [List.length_cons, List.length_append] at hfuel
    omega
  refine ⟨rest, ?_, rfl⟩
  have hskip := skip_bracketed (skipElements_separated hne hitems hlength rest)
  simpa using hskip

theorem skipName_append {t : Bytes} (h : IsLabel t) (rest : Bytes) :
    skipName (t ++ 0x3A :: rest) = some rest := by
  obtain ⟨before, inner, after, hbefore, hafter, rfl, hinner⟩ := h
  have hskip := JsonText.skip_append hinner (after ++ 0x3A :: rest)
  have hcolon : skipBlank (after ++ 0x3A :: rest) = 0x3A :: rest := skipBlank_blanks hafter _
  have hquote : skipBlank (before ++ 0x22 :: (inner ++ 0x22 :: (after ++ 0x3A :: rest))) =
      0x22 :: (inner ++ 0x22 :: (after ++ 0x3A :: rest)) := skipBlank_blanks hbefore _
  simp [skipName, hquote, hskip, hcolon]

/-- Members with commas between them are skipped up to the brace. -/
theorem skipMembers_separated {ms : List (Bytes × Bytes)} (hne : ms ≠ [])
    (hlabels : ∀ m ∈ ms, IsLabel m.1) (htexts : ∀ m ∈ ms, Skips m.2) {fuel : Nat}
    (hfuel : (separated (ms.map fun m => m.1 ++ 0x3A :: m.2)).length < fuel) (rest : Bytes) :
    skipMembers fuel (separated (ms.map fun m => m.1 ++ 0x3A :: m.2) ++ 0x7D :: rest) =
      some rest := by
  induction ms generalizing fuel with
  | nil => exact absurd rfl hne
  | cons m ms ih =>
      obtain ⟨fuel, rfl⟩ : ∃ f, fuel = f + 1 := ⟨fuel - 1, by omega⟩
      have hname (rest : Bytes) := skipName_append (hlabels m (List.mem_cons_self ..)) rest
      have hm : Skips m.2 := htexts m (List.mem_cons_self ..)
      cases ms with
      | nil =>
          simp only [List.map_cons, List.map_nil, separated_singleton, List.length_append,
            List.length_cons, List.append_assoc, List.cons_append] at hfuel ⊢
          obtain ⟨r, hskip, hr⟩ := hm fuel (0x7D :: rest) (by omega)
            (Lexeme.ends_cons (by decide) _)
          have hclose : skipBlank (0x7D :: rest) = 0x7D :: rest := rfl
          simp only [skipMembers, hname, hskip, hr, hclose]
      | cons l ms =>
          simp only [List.map_cons, separated_cons_cons, List.length_append, List.length_cons,
            List.append_assoc, List.cons_append] at hfuel ⊢
          let behind := separated ((l.1 ++ 0x3A :: l.2) :: ms.map fun m => m.1 ++ 0x3A :: m.2)
          have htail : skipMembers fuel (behind ++ 0x7D :: rest) = some rest :=
            ih (by simp) (fun k hk => hlabels k (List.mem_cons_of_mem _ hk))
              (fun k hk => htexts k (List.mem_cons_of_mem _ hk))
              (by simp only [List.map_cons]; omega)
          obtain ⟨r, hskip, hr⟩ := hm fuel (0x2C :: (behind ++ 0x7D :: rest)) (by omega)
            (Lexeme.ends_cons (by decide) _)
          rw [skipBlank_cons_of_not_blank rfl] at hr
          simp only [skipMembers, hname, hskip, hr, htail, behind]

theorem skip_braced {fuel : Nat} {bs rest : Bytes} (h : skipMembers fuel bs = some rest) :
    skip (fuel + 1) (0x7B :: bs) = some rest := by
  rw [skip, skipBlank_cons_of_not_blank rfl]
  dsimp only
  rw [if_neg (by decide), if_neg (by decide), if_pos rfl]
  split
  · rename_i r hclose
    cases fuel with
    | zero => simp [skipMembers] at h
    | succ fuel => simp [skipMembers, skipName, hclose] at h
  · rw [skipMembers_congr (skipBlank_skipBlank bs), h]

theorem skips_object {ms : List (Bytes × Bytes)} (hne : ms ≠ [])
    (hlabels : ∀ m ∈ ms, IsLabel m.1) (htexts : ∀ m ∈ ms, Skips m.2) :
    Skips (0x7B :: (separated (ms.map fun m => m.1 ++ 0x3A :: m.2) ++ [0x7D])) := by
  intro fuel rest hfuel _
  obtain ⟨fuel, rfl⟩ : ∃ f, fuel = f + 1 := ⟨fuel - 1, by simp at hfuel; omega⟩
  have hlength : (separated (ms.map fun m => m.1 ++ 0x3A :: m.2)).length < fuel := by
    simp only [List.length_cons, List.length_append] at hfuel
    omega
  refine ⟨rest, ?_, rfl⟩
  have hskip := skip_braced (skipMembers_separated hne hlabels htexts hlength rest)
  simpa using hskip

/-- **What has the syntax of a value is skipped**, one rule after the other. -/
theorem skips_of_wellFormed {t : Bytes} (h : WellFormed t) : Skips t := by
  induction h with
  | blank hbefore hafter _ ih => exact skips_blank hbefore hafter ih
  | word hw => exact skips_word hw
  | number ht => exact skips_number ht
  | text ht => exact skips_text ht
  | emptyArray hws => exact skips_emptyArray hws
  | array hne _ ih => exact skips_array hne ih
  | emptyObject hws => exact skips_emptyObject hws
  | object hne hlabels _ ih => exact skips_object hne hlabels ih

/-! ### What is skipped has the syntax -/

/-- What is skipped with so many calls has the syntax of a value. -/
def ValueSkipped (fuel : Nat) : Prop :=
  ∀ ⦃bs rest⦄, skip fuel bs = some rest → ∃ t, bs = t ++ rest ∧ WellFormed t

/-- The same for values up to a bracket. -/
def ElementsSkipped (fuel : Nat) : Prop :=
  ∀ ⦃bs rest⦄, skipElements fuel bs = some rest →
    ∃ items, items ≠ [] ∧ bs = separated items ++ 0x5D :: rest ∧ ∀ t ∈ items, WellFormed t

/-- The same for members up to a brace. -/
def MembersSkipped (fuel : Nat) : Prop :=
  ∀ ⦃bs rest⦄, skipMembers fuel bs = some rest →
    ∃ ms : List (Bytes × Bytes), ms ≠ [] ∧
      bs = separated (ms.map fun m => m.1 ++ 0x3A :: m.2) ++ 0x7D :: rest ∧
      ∀ m ∈ ms, IsLabel m.1 ∧ WellFormed m.2

/-- What stands between brackets: blanks, or values with commas between them. -/
theorem wellFormed_array {fuel : Nat} (ih : ElementsSkipped fuel) {bs rest : Bytes}
    (h : (match skipBlank bs with
      | 0x5D :: r => some r
      | r => skipElements fuel r) = some rest) : ∃ t, 0x5B :: bs = t ++ rest ∧ WellFormed t := by
  split at h
  · rename_i r hclose
    obtain rfl := Option.some.inj h
    obtain ⟨ws, hws, rfl⟩ := exists_blanks_of_skipBlank hclose
    exact ⟨0x5B :: (ws ++ [0x5D]), by simp, .emptyArray hws⟩
  · rw [skipElements_congr (skipBlank_skipBlank bs)] at h
    obtain ⟨items, hne, rfl, hitems⟩ := ih h
    exact ⟨_, by simp, .array hne hitems⟩

/-- What stands between braces: blanks, or members with commas between them. -/
theorem wellFormed_object {fuel : Nat} (ih : MembersSkipped fuel) {bs rest : Bytes}
    (h : (match skipBlank bs with
      | 0x7D :: r => some r
      | r => skipMembers fuel r) = some rest) : ∃ t, 0x7B :: bs = t ++ rest ∧ WellFormed t := by
  split at h
  · rename_i r hclose
    obtain rfl := Option.some.inj h
    obtain ⟨ws, hws, rfl⟩ := exists_blanks_of_skipBlank hclose
    exact ⟨0x7B :: (ws ++ [0x7D]), by simp, .emptyObject hws⟩
  · rw [skipMembers_congr (skipBlank_skipBlank bs)] at h
    obtain ⟨ms, hne, rfl, hms⟩ := ih h
    exact ⟨_, by simp, .object hne (fun m hm => (hms m hm).1) fun m hm => (hms m hm).2⟩

theorem valueSkipped_succ {fuel : Nat} (helements : ElementsSkipped fuel)
    (hmembers : MembersSkipped fuel) : ValueSkipped (fuel + 1) := by
  intro bs rest h
  suffices hs : ∃ t, skipBlank bs = t ++ rest ∧ WellFormed t by
    obtain ⟨t, hbs, ht⟩ := hs
    obtain ⟨ws, hws, rfl⟩ := exists_blanks_of_skipBlank hbs
    exact ⟨ws ++ t, by simp, ht.blanksBefore hws⟩
  rw [skip] at h
  cases hbs : skipBlank bs with
  | nil => simp [hbs] at h
  | cons b r =>
      rw [hbs] at h
      dsimp only at h
      split_ifs at h with hquote hbracket hbrace hnumber
      · obtain ⟨t, rfl, ht⟩ := JsonText.wellFormed_of_skip h
        exact ⟨0x22 :: (t ++ [0x22]), by simp [hquote], .text ht⟩
      · subst hbracket
        exact wellFormed_array helements h
      · subst hbrace
        exact wellFormed_object hmembers h
      · obtain ⟨⟨x, r'⟩, hscan, rfl⟩ := Option.map_eq_some_iff.mp h
        obtain ⟨t, ht, hx⟩ := Lexeme.spells_of_scan hscan
        exact ⟨t, ht, .number hx⟩
      · obtain ⟨⟨v, r'⟩, hconstant, rfl⟩ := Option.map_eq_some_iff.mp h
        obtain ⟨w, hw, hbr⟩ := mem_words_of_constant hconstant
        exact ⟨Utf8.encode w, hbr, .word hw⟩

theorem isLabel_of_skipName {bs rest : Bytes} (h : skipName bs = some rest) :
    ∃ t, bs = t ++ 0x3A :: rest ∧ IsLabel t := by
  rw [skipName] at h
  split at h
  · rename_i r hquote
    split at h
    · rename_i r' hskip
      split at h
      · rename_i r'' hcolon
        obtain rfl := Option.some.inj h
        obtain ⟨inner, rfl, hinner⟩ := JsonText.wellFormed_of_skip hskip
        obtain ⟨before, hbefore, rfl⟩ := exists_blanks_of_skipBlank hquote
        obtain ⟨after, hafter, rfl⟩ := exists_blanks_of_skipBlank hcolon
        exact ⟨before ++ 0x22 :: (inner ++ 0x22 :: after), by simp, before, inner, after, hbefore,
          hafter, rfl, hinner⟩
      · simp at h
    · simp at h
  · simp at h

theorem elementsSkipped_succ {fuel : Nat} (hvalue : ValueSkipped fuel)
    (ih : ElementsSkipped fuel) : ElementsSkipped (fuel + 1) := by
  intro bs rest h
  rw [skipElements] at h
  split at h
  · simp at h
  · rename_i r hv
    obtain ⟨t, rfl, ht⟩ := hvalue hv
    split at h
    · rename_i r' hcomma
      obtain ⟨ws, hws, rfl⟩ := exists_blanks_of_skipBlank hcomma
      obtain ⟨items, hne, rfl, hitems⟩ := ih h
      obtain ⟨u, items, rfl⟩ := List.exists_cons_of_ne_nil hne
      refine ⟨(t ++ ws) :: u :: items, by simp, by simp [separated_cons_cons], ?_⟩
      exact List.forall_mem_cons.mpr ⟨ht.blanksAfter hws, hitems⟩
    · rename_i r' hclose
      obtain rfl := Option.some.inj h
      obtain ⟨ws, hws, rfl⟩ := exists_blanks_of_skipBlank hclose
      refine ⟨[t ++ ws], by simp, by simp, ?_⟩
      exact List.forall_mem_singleton.mpr (ht.blanksAfter hws)
    · simp at h

theorem membersSkipped_succ {fuel : Nat} (hvalue : ValueSkipped fuel)
    (ih : MembersSkipped fuel) : MembersSkipped (fuel + 1) := by
  intro bs rest h
  rw [skipMembers] at h
  split at h
  · simp at h
  · rename_i r hs
    obtain ⟨label, rfl, hlabel⟩ := isLabel_of_skipName hs
    split at h
    · simp at h
    · rename_i r' hv
      obtain ⟨t, rfl, ht⟩ := hvalue hv
      split at h
      · rename_i r'' hcomma
        obtain ⟨ws, hws, rfl⟩ := exists_blanks_of_skipBlank hcomma
        obtain ⟨ms, hne, rfl, hms⟩ := ih h
        obtain ⟨m, ms, rfl⟩ := List.exists_cons_of_ne_nil hne
        refine ⟨(label, t ++ ws) :: m :: ms, by simp, by simp [separated_cons_cons], ?_⟩
        exact List.forall_mem_cons.mpr ⟨⟨hlabel, ht.blanksAfter hws⟩, hms⟩
      · rename_i r'' hclose
        obtain rfl := Option.some.inj h
        obtain ⟨ws, hws, rfl⟩ := exists_blanks_of_skipBlank hclose
        refine ⟨[(label, t ++ ws)], by simp, by simp, ?_⟩
        exact List.forall_mem_singleton.mpr ⟨hlabel, ht.blanksAfter hws⟩
      · simp at h

/-- **What is skipped has the syntax of a value**, by induction on the number of calls. -/
theorem skipped (fuel : Nat) : ValueSkipped fuel ∧ ElementsSkipped fuel ∧ MembersSkipped fuel := by
  induction fuel with
  | zero =>
      refine ⟨fun _ _ h => ?_, fun _ _ h => ?_, fun _ _ h => ?_⟩
      · simp [skip] at h
      · simp [skipElements] at h
      · simp [skipMembers] at h
  | succ fuel ih =>
      obtain ⟨hvalue, helements, hmembers⟩ := ih
      exact ⟨valueSkipped_succ helements hmembers, elementsSkipped_succ hvalue helements,
        membersSkipped_succ hvalue hmembers⟩

/-! ### Where a value ends -/

/-- A byte that comes behind a value: no value goes on with it. -/
def Closes (b : UInt8) : Prop :=
  b = 0x2C ∨ b = 0x5D ∨ b = 0x7D

theorem Closes.ends {b : UInt8} (hb : Closes b) (rest : Bytes) : Ends (b :: rest) := by
  rcases hb with rfl | rfl | rfl
  all_goals exact Lexeme.ends_cons (by decide) rest

theorem Closes.skipBlank {b : UInt8} (hb : Closes b) (rest : Bytes) :
    skipBlank (b :: rest) = b :: rest := by
  rcases hb with rfl | rfl | rfl
  all_goals rfl

/-- **A value has one end only** among the bytes that may come behind a value. -/
theorem WellFormed.eq_of_append_eq {t u r s : Bytes} {b c : UInt8} (ht : WellFormed t)
    (hu : WellFormed u) (hb : Closes b) (hc : Closes c) (h : t ++ b :: r = u ++ c :: s) :
    t = u := by
  -- enough calls for either text, so that both are skipped by the same run
  let fuel := t.length + u.length
  obtain ⟨x, hx, hxr⟩ := skips_of_wellFormed ht fuel (b :: r) (by omega) (hb.ends r)
  obtain ⟨y, hy, hys⟩ := skips_of_wellFormed hu fuel (c :: s) (by omega) (hc.ends s)
  obtain rfl : x = y := by
    rw [h, hy] at hx
    exact (Option.some.inj hx).symm
  have hrest : b :: r = c :: s := by rw [← hb.skipBlank r, ← hxr, hys, hc.skipBlank s]
  rw [hrest] at h
  exact List.append_cancel_right h

/-! ### Deciding it -/

/-- A name in quotes can be told by reading it. -/
theorem spellsName_iff {t : Bytes} {s : String} :
    SpellsName t s ↔ name (t ++ [0x3A]) = some (s, []) := by
  constructor
  · exact fun h => name_append h []
  · intro h
    obtain ⟨u, hu, hs⟩ := spelled_name h
    rwa [List.append_cancel_right hu]

/-- The syntax of a value can be told by skipping it. -/
theorem wellFormed_iff {t : Bytes} :
    WellFormed t ↔ ∃ r ∈ skip (enough t) t, skipBlank r = [] := by
  constructor
  · intro h
    have hlength : t.length ≤ enough t := by
      rw [enough]
      omega
    obtain ⟨r, hskip, hr⟩ := skips_of_wellFormed h (enough t) [] hlength (by simp [Ends])
    rw [List.append_nil] at hskip
    exact ⟨r, hskip, hr⟩
  · rintro ⟨r, hskip, hr⟩
    obtain ⟨u, rfl, hu⟩ := (skipped _).1 hskip
    obtain ⟨ws, hws, rfl⟩ := exists_blanks_of_skipBlank hr
    rw [List.append_nil]
    exact hu.blanksAfter hws

instance (t : Bytes) (s : String) : Decidable (SpellsName t s) :=
  decidable_of_iff _ spellsName_iff.symm

instance (t : Bytes) : Decidable (WellFormed t) :=
  decidable_of_iff _ wellFormed_iff.symm

end Json

end Onboarding
