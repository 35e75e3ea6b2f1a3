import Onboarding.Proofs.Json.Grammar

/-!
# Reading texts and numbers

A text ends at its closing quote, whatever follows. A number ends where no byte goes on with it, so
what follows it matters: behind `Lexeme.Ends` a spelled number is read to its end and no further.
In either case what is read is what the grammar says that it spells.

## Main results

* `JsonText.content_eq_some_iff`: what is read up to a closing quote.
* `Lexeme.scan_append`: a spelled number is read, if nothing goes on with it.
* `Lexeme.spells_of_scan`: what is read as a number spells it.
-/

namespace Onboarding

/-! ### Texts -/

namespace JsonText

/-- What spells bytes is read as these bytes, up to the closing quote. -/
theorem content_of_spells {t bs : Bytes} (h : Spells t bs) (rest : Bytes) :
    content (t ++ 0x22 :: rest) = some (bs, rest) := by
  induction h with
  | nil =>
      rw [List.nil_append, content.eq_def]
      rfl
  | plain hb _ ih =>
      obtain ⟨hquote, hslash, hcontrol⟩ := hb
      rw [List.cons_append, content.eq_def]
      simp only [hquote, hslash, hcontrol, if_false, ih, Option.map_some]
  | @escape e x t bs he _ ih =>
      have hunit : e ≠ 0x75 := by
        rintro rfl
        simp [escaped?] at he
      rw [List.cons_append, content.eq_def]
      simp [hunit, he, ih]
  | unit hu hhigh hlow _ ih =>
      rw [List.cons_append, content.eq_def]
      simp [hu, hhigh, hlow, ih]
  | pair hu hhigh hv hlow _ ih =>
      rw [List.cons_append, content.eq_def]
      simp [hu, hhigh, hv, hlow, ih]

/-- What is read up to a closing quote spells what it is read as. -/
theorem spells_of_content {input bs rest : Bytes} (h : content input = some (bs, rest)) :
    ∃ t, input = t ++ 0x22 :: rest ∧ Spells t bs := by
  fun_induction content input generalizing bs rest with
  | case2 r =>
      obtain ⟨rfl, rfl⟩ := Prod.mk.inj (Option.some.inj h)
      exact ⟨[], rfl, .nil⟩
  | case6 h₁ h₂ h₃ h₄ u hu hhigh s t k₁ k₂ k₃ k₄ r hpair v hv hlow _ ih =>
      obtain ⟨⟨bs, rest⟩, hr, heq⟩ := Option.map_eq_some_iff.mp h
      obtain ⟨rfl, rfl⟩ := Prod.mk.inj heq
      obtain ⟨t, rfl, ht⟩ := ih hr
      obtain ⟨rfl, rfl⟩ := hpair
      exact ⟨_, rfl, .pair hu hhigh hv hlow ht⟩
  | case11 h₁ h₂ h₃ h₄ r u hu hhigh hlow _ ih =>
      obtain ⟨⟨bs, rest⟩, hr, heq⟩ := Option.map_eq_some_iff.mp h
      obtain ⟨rfl, rfl⟩ := Prod.mk.inj heq
      obtain ⟨t, rfl, ht⟩ := ih hr
      exact ⟨_, rfl, .unit hu (by simpa using hhigh) (by simpa using hlow) ht⟩
  | case14 e r _ x hx _ ih =>
      obtain ⟨⟨bs, rest⟩, hr, heq⟩ := Option.map_eq_some_iff.mp h
      obtain ⟨rfl, rfl⟩ := Prod.mk.inj heq
      obtain ⟨t, rfl, ht⟩ := ih hr
      exact ⟨_, rfl, .escape hx ht⟩
  | case16 b r hquote hslash hcontrol ih =>
      obtain ⟨⟨bs, rest⟩, hr, heq⟩ := Option.map_eq_some_iff.mp h
      obtain ⟨rfl, rfl⟩ := Prod.mk.inj heq
      obtain ⟨t, rfl, ht⟩ := ih hr
      exact ⟨_, rfl, .plain ⟨hquote, hslash, hcontrol⟩ ht⟩
  | _ => simp at h

/-- **What is read up to a closing quote** is what the bytes before it spell. -/
theorem content_eq_some_iff {input bs rest : Bytes} :
    content input = some (bs, rest) ↔ ∃ t, input = t ++ 0x22 :: rest ∧ Spells t bs := by
  constructor
  · exact spells_of_content
  · rintro ⟨t, rfl, ht⟩
    exact content_of_spells ht rest

/-- **A text is read** exactly if its UTF-8 form is spelled up to a closing quote. -/
theorem read_eq_some_iff {input rest : Bytes} {s : String} :
    read input = some (s, rest) ↔
      ∃ t, input = t ++ 0x22 :: rest ∧ Spells t (Utf8.encode s) := by
  rw [← content_eq_some_iff]
  constructor
  · intro h
    rw [read] at h
    obtain ⟨⟨bs, r⟩, hcontent, h⟩ := Option.bind_eq_some_iff.mp h
    obtain ⟨t, hdecode, h⟩ := Option.bind_eq_some_iff.mp h
    obtain ⟨rfl, rfl⟩ := Prod.mk.inj (Option.some.inj h)
    rwa [Utf8.encode_of_decode hdecode]
  · intro h
    simp [read, h, Utf8.decode_encode]

/-- A written text spells what was written. -/
theorem spells_body (s : String) : Spells (body s) (Utf8.encode s) := by
  obtain ⟨t, heq, ht⟩ := read_eq_some_iff.mp (read_body s [])
  rwa [List.append_cancel_right heq]

end JsonText

/-! ### Numbers -/

namespace Lexeme

/-- No digit comes next. -/
def NoDigit (rest : Bytes) : Prop :=
  ∀ b ∈ rest.head?, digit? b = none

/-- Nothing comes next that goes on with a number. -/
def Ends (rest : Bytes) : Prop :=
  ∀ b ∈ rest.head?, digit? b = none ∧ b ≠ 0x2E ∧ b ≠ 0x65 ∧ b ≠ 0x45

theorem ends_cons {b : UInt8} (hb : digit? b = none ∧ b ≠ 0x2E ∧ b ≠ 0x65 ∧ b ≠ 0x45)
    (rest : Bytes) : Ends (b :: rest) := by
  intro c hc
  obtain rfl : b = c := by simpa using hc
  exact hb

theorem Ends.noDigit {rest : Bytes} (h : Ends rest) : NoDigit rest :=
  fun b hb => (h b hb).1

/-- Digits are taken up to the first byte that is none. -/
theorem takeDigits_append {t : Bytes} {ds : List Nat} (ht : t.map digit? = ds.map some)
    {rest : Bytes} (hrest : NoDigit rest) : takeDigits (t ++ rest) = (ds, rest) := by
  induction t generalizing ds with
  | nil =>
      obtain rfl : ds = [] := by simpa using ht.symm
      cases rest with
      | nil => rfl
      | cons b r =>
          have hb : digit? b = none := hrest b rfl
          rw [List.nil_append, takeDigits, hb]
  | cons b t ih =>
      cases ds with
      | nil => simp at ht
      | cons d ds =>
          obtain ⟨hb, htail⟩ := List.cons.inj ht
          rw [List.cons_append, takeDigits, hb]
          simp only [ih htail]

/-- What is taken are digits, and no digit comes next. -/
theorem takeDigits_eq {bs rest : Bytes} {ds : List Nat} (h : takeDigits bs = (ds, rest)) :
    ∃ t, bs = t ++ rest ∧ t.map digit? = ds.map some := by
  induction bs generalizing ds with
  | nil =>
      obtain ⟨rfl, rfl⟩ := Prod.mk.inj h
      exact ⟨[], rfl, rfl⟩
  | cons b r ih =>
      rw [takeDigits] at h
      split at h
      · rename_i d hd
        obtain ⟨rfl, rfl⟩ := Prod.mk.inj h
        obtain ⟨t, ht, hds⟩ := ih rfl
        refine ⟨b :: t, ?_, ?_⟩
        · rw [List.cons_append, ← ht]
        · rw [List.map_cons, List.map_cons, hd, hds]
      · obtain ⟨rfl, rfl⟩ := Prod.mk.inj h
        exact ⟨[], rfl, rfl⟩

theorem someDigits_append {t : Bytes} {ds : List Nat} (ht : SpellsDigits t ds) {rest : Bytes}
    (hrest : NoDigit rest) : someDigits (t ++ rest) = some (ds, rest) := by
  rw [someDigits, takeDigits_append ht.2 hrest]
  cases ds with
  | nil => exact absurd rfl ht.1
  | cons d ds => rfl

theorem spells_of_someDigits {bs rest : Bytes} {ds : List Nat}
    (h : someDigits bs = some (ds, rest)) : ∃ t, bs = t ++ rest ∧ SpellsDigits t ds := by
  rw [someDigits] at h
  split at h
  · simp at h
  · rename_i found hne
    obtain ⟨t, ht, hds⟩ := takeDigits_eq (Option.some.inj h)
    refine ⟨t, ht, ?_, hds⟩
    rintro rfl
    exact hne rest (Option.some.inj h)

/-- The first byte of digits is a digit. -/
theorem SpellsDigits.exists_cons {t : Bytes} {ds : List Nat} (h : SpellsDigits t ds) :
    ∃ b u d, t = b :: u ∧ digit? b = some d := by
  obtain ⟨hne, hds⟩ := h
  cases t with
  | nil => exact absurd (by simpa using hds.symm) hne
  | cons b u =>
      cases ds with
      | nil => exact absurd rfl hne
      | cons d ds => exact ⟨b, u, d, rfl, (List.cons.inj hds).1⟩

theorem scanWhole_append {t : Bytes} {ds : List Nat} (ht : SpellsWhole t ds) {rest : Bytes}
    (hrest : NoDigit rest) : scanWhole (t ++ rest) = some (ds, rest) := by
  rw [scanWhole, someDigits_append ht.1 hrest]
  split
  · rename_i d r _ heq
    obtain ⟨rfl, -⟩ := Prod.mk.inj (Option.some.inj heq)
    have hzero := ht.2 rfl
    simp at hzero
  · rfl

theorem spells_of_scanWhole {bs rest : Bytes} {ds : List Nat}
    (h : scanWhole bs = some (ds, rest)) : ∃ t, bs = t ++ rest ∧ SpellsWhole t ds := by
  rw [scanWhole] at h
  split at h
  · simp at h
  · rename_i hzero
    obtain ⟨t, ht, hds⟩ := spells_of_someDigits h
    refine ⟨t, ht, hds, ?_⟩
    intro hhead
    cases ds with
    | nil => simp at hhead
    | cons d ds =>
        obtain rfl : d = 0 := by simpa using hhead
        cases ds with
        | nil => rfl
        | cons e ds => exact absurd h (hzero e ds rest)

theorem scanFraction_append {t : Bytes} {ds : Option (List Nat)} (ht : SpellsFraction t ds)
    {rest : Bytes} (hrest : NoDigit rest) (hpoint : ∀ b ∈ rest.head?, b ≠ 0x2E) :
    scanFraction (t ++ rest) = some (ds, rest) := by
  cases ds with
  | none =>
      obtain rfl : t = [] := ht
      rw [List.nil_append, scanFraction]
      rintro r rfl
      exact hpoint 0x2E rfl rfl
  | some ds =>
      obtain ⟨u, rfl, hu⟩ := ht
      rw [List.cons_append, scanFraction, someDigits_append hu hrest]
      rfl

theorem spells_of_scanFraction {bs rest : Bytes} {ds : Option (List Nat)}
    (h : scanFraction bs = some (ds, rest)) : ∃ t, bs = t ++ rest ∧ SpellsFraction t ds := by
  rw [scanFraction.eq_def] at h
  split at h
  · obtain ⟨⟨ds, r⟩, hdigits, heq⟩ := Option.map_eq_some_iff.mp h
    obtain ⟨rfl, rfl⟩ := Prod.mk.inj heq
    obtain ⟨t, rfl, ht⟩ := spells_of_someDigits hdigits
    exact ⟨0x2E :: t, rfl, t, rfl, ht⟩
  · obtain ⟨rfl, rfl⟩ := Prod.mk.inj (Option.some.inj h)
    exact ⟨[], rfl, rfl⟩

/-- Digits behind an exponent mark start with no sign. -/
theorem SpellsDigits.not_sign {u : Bytes} {ds : List Nat} (h : SpellsDigits u ds) (sign : UInt8)
    (hsign : digit? sign = none) (rest r : Bytes) : u ++ rest ≠ sign :: r := by
  obtain ⟨b, u, d, rfl, hb⟩ := h.exists_cons
  intro heq
  obtain rfl : b = sign := (List.cons.inj heq).1
  simp [hsign] at hb

theorem scanExponent_append {t : Bytes} {e : Option (Bool × List Nat)} (ht : SpellsExponent t e)
    {rest : Bytes} (hrest : Ends rest) : scanExponent (t ++ rest) = some (e, rest) := by
  cases e with
  | none =>
      obtain rfl : t = [] := ht
      cases rest with
      | nil => rfl
      | cons b r =>
          obtain ⟨-, -, hlower, hupper⟩ := hrest b rfl
          simp [scanExponent.eq_def, hlower, hupper]
  | some e =>
      obtain ⟨negative, ds⟩ := e
      obtain ⟨mark, sign, u, rfl, hmark, hsign, hu⟩ := ht
      have hdigits := someDigits_append hu hrest.noDigit
      cases negative with
      | true =>
          obtain rfl : sign = [0x2D] := hsign
          simp [scanExponent.eq_def, hmark, hdigits]
      | false =>
          rcases hsign with rfl | rfl
          · have hminus := hu.not_sign 0x2D rfl rest
            have hplus := hu.not_sign 0x2B rfl rest
            rw [List.append_assoc, List.singleton_append, scanExponent, if_pos hmark, hdigits]
            · rfl
            · exact hminus
            · exact hplus
          · simp [scanExponent.eq_def, hmark, hdigits]

/-- What is read behind the mark and the sign of an exponent spells it together with them. -/
theorem spells_of_marked {mark : UInt8} (hmark : mark = 0x65 ∨ mark = 0x45) (negative : Bool)
    (sign : Bytes) (hsign : if negative then sign = [0x2D] else sign = [] ∨ sign = [0x2B])
    {r rest : Bytes} {e : Option (Bool × List Nat)}
    (h : (someDigits r).map (fun (ds, rest) => (some (negative, ds), rest)) = some (e, rest)) :
    ∃ t, mark :: sign ++ r = t ++ rest ∧ SpellsExponent t e := by
  obtain ⟨⟨ds, r'⟩, hdigits, heq⟩ := Option.map_eq_some_iff.mp h
  obtain ⟨rfl, rfl⟩ := Prod.mk.inj heq
  obtain ⟨u, rfl, hds⟩ := spells_of_someDigits hdigits
  exact ⟨mark :: sign ++ u, by simp, mark, sign, u, rfl, hmark, hsign, hds⟩

theorem spells_of_scanExponent {bs rest : Bytes} {e : Option (Bool × List Nat)}
    (h : scanExponent bs = some (e, rest)) : ∃ t, bs = t ++ rest ∧ SpellsExponent t e := by
  cases bs with
  | nil =>
      obtain ⟨rfl, rfl⟩ := Prod.mk.inj (Option.some.inj h)
      exact ⟨[], rfl, rfl⟩
  | cons mark r =>
      by_cases hmark : mark = 0x65 ∨ mark = 0x45
      · replace h := (if_pos hmark).symm.trans h
        split at h
        · exact spells_of_marked hmark true [0x2D] rfl h
        · exact spells_of_marked hmark false [0x2B] (.inr rfl) h
        · exact spells_of_marked hmark false [] (.inl rfl) h
      · replace h := (if_neg hmark).symm.trans h
        obtain ⟨rfl, rfl⟩ := Prod.mk.inj (Option.some.inj h)
        exact ⟨[], rfl, rfl⟩

/-- What follows the digits before the point goes on with no digit, and what follows the digits
behind it with no point either. -/
theorem SpellsExponent.ends_append {t : Bytes} {e : Option (Bool × List Nat)}
    (ht : SpellsExponent t e) {rest : Bytes} (hrest : Ends rest) :
    ∀ b ∈ (t ++ rest).head?, digit? b = none ∧ b ≠ 0x2E := by
  cases e with
  | none =>
      obtain rfl : t = [] := ht
      exact fun b hb => ⟨(hrest b hb).1, (hrest b hb).2.1⟩
  | some e =>
      obtain ⟨mark, sign, u, rfl, hmark, -, -⟩ := ht
      intro b hb
      obtain rfl : mark = b := by simpa using hb
      rcases hmark with rfl | rfl <;> decide

theorem SpellsFraction.noDigit_append {t : Bytes} {ds : Option (List Nat)}
    (ht : SpellsFraction t ds) {rest : Bytes} (hrest : NoDigit rest) : NoDigit (t ++ rest) := by
  cases ds with
  | none =>
      obtain rfl : t = [] := ht
      exact hrest
  | some ds =>
      obtain ⟨u, rfl, -⟩ := ht
      intro b hb
      obtain rfl : 0x2E = b := by simpa using hb
      decide

/-- **A spelled number is read** to its end, if nothing goes on with it. -/
theorem scan_append {t : Bytes} {x : Lexeme} (ht : Spells t x) {rest : Bytes}
    (hrest : Ends rest) : scan (t ++ rest) = some (x, rest) := by
  obtain ⟨sign, whole, fraction, exponent, rfl, hsign, hwhole, hfraction, hexponent⟩ := ht
  have hbehind := hexponent.ends_append hrest
  have hnoDigit : NoDigit (exponent ++ rest) := fun b hb => (hbehind b hb).1
  have hparts : scan (sign ++ (whole ++ (fraction ++ (exponent ++ rest)))) = some (x, rest) := by
    have hw := scanWhole_append hwhole (hfraction.noDigit_append hnoDigit)
    have hf := scanFraction_append hfraction hnoDigit fun b hb => (hbehind b hb).2
    have he := scanExponent_append hexponent hrest
    obtain ⟨negative, ws, fs, es⟩ := x
    cases negative with
    | true =>
        obtain rfl : sign = [0x2D] := hsign
        simp [scan, hw, hf, he]
    | false =>
        obtain rfl : sign = [] := hsign
        have hminus := hwhole.1.not_sign 0x2D rfl (fraction ++ (exponent ++ rest))
        rw [List.nil_append, scan]
        · simp [hw, hf, he]
        · exact hminus
  simpa using hparts

/-- What is read behind the sign of a number spells it together with the sign. -/
theorem spells_of_signed (negative : Bool) {bs rest : Bytes} {x : Lexeme}
    (h : ((scanWhole bs).bind fun w => (scanFraction w.2).bind fun f =>
      (scanExponent f.2).bind fun e => some (⟨negative, w.1, f.1, e.1⟩, e.2)) = some (x, rest)) :
    ∃ t, (if negative then [0x2D] else []) ++ bs = t ++ rest ∧ Spells t x := by
  obtain ⟨⟨ws, r₁⟩, hw, h⟩ := Option.bind_eq_some_iff.mp h
  obtain ⟨⟨fs, r₂⟩, hf, h⟩ := Option.bind_eq_some_iff.mp h
  obtain ⟨⟨es, r₃⟩, he, h⟩ := Option.bind_eq_some_iff.mp h
  obtain ⟨rfl, rfl⟩ := Prod.mk.inj (Option.some.inj h)
  obtain ⟨whole, rfl, hwhole⟩ := spells_of_scanWhole hw
  obtain ⟨fraction, rfl, hfraction⟩ := spells_of_scanFraction hf
  obtain ⟨exponent, rfl, hexponent⟩ := spells_of_scanExponent he
  exact ⟨_, by simp only [List.append_assoc], _, whole, fraction, exponent, rfl, rfl, hwhole,
    hfraction, hexponent⟩

/-- **What is read as a number spells it.** -/
theorem spells_of_scan {bs rest : Bytes} {x : Lexeme} (h : scan bs = some (x, rest)) :
    ∃ t, bs = t ++ rest ∧ Spells t x := by
  by_cases hminus : ∃ r, bs = 0x2D :: r
  · obtain ⟨r, rfl⟩ := hminus
    exact spells_of_signed true h
  · rw [scan] at h
    · exact spells_of_signed false h
    · exact fun r hr => hminus ⟨r, hr⟩

/-- A number starts with its sign or with a digit. -/
theorem Spells.exists_cons {t : Bytes} {x : Lexeme} (h : Spells t x) :
    ∃ b u, t = b :: u ∧ (b = 0x2D ∨ (digit? b).isSome) := by
  obtain ⟨sign, whole, fraction, exponent, rfl, hsign, hwhole, -, -⟩ := h
  obtain ⟨b, u, d, rfl, hb⟩ := hwhole.1.exists_cons
  cases hx : x.negative with
  | true => exact ⟨0x2D, _, by rw [hsign, hx]; rfl, .inl rfl⟩
  | false => exact ⟨b, _, by rw [hsign, hx]; rfl, .inr (by rw [hb]; rfl)⟩

end Lexeme

end Onboarding
