import Onboarding.Proofs.Json.Documents
import Onboarding.Proofs.Text.Boundaries

/-!
# JSON texts are UTF-8

Everything in a JSON text but the characters between quotes is below 128, and so are escapes. A
character between quotes that is no escape stands there byte for byte, and these bytes are a
character only as a whole: if what is spelled is a text, then so is what spells it. Hence no JSON
text is lost to a reader that first wants to see UTF-8.

## Main results

* `JsonText.Spells.isText`: what spells a text between quotes is a text.
* `Json.Spells.isText`: what spells a value is a text.
-/

namespace Onboarding

open Utf8 (IsText IsAscii)

/-! ### Between quotes -/

namespace JsonText

theorem ascii_of_hex? {b : UInt8} {n : Nat} (h : hex? b = some n) : b < 0x80 := by
  rw [hex?] at h
  simp only [UInt8.lt_iff_toNat_lt, UInt8.le_iff_toNat_le] at h ⊢
  split_ifs at h with hdigit hupper hlower
  · exact Nat.lt_of_le_of_lt hdigit.2 (by decide)
  · exact Nat.lt_of_le_of_lt hupper.2 (by decide)
  · exact Nat.lt_of_le_of_lt hlower.2 (by decide)

theorem ascii_of_unit? {a b c d : UInt8} {u : Nat} (h : unit? a b c d = some u) :
    IsAscii [a, b, c, d] := by
  simp only [unit?, bind, Option.bind_eq_some_iff] at h
  obtain ⟨_, ha, _, hb, _, hc, _, hd, -⟩ := h
  simp only [IsAscii, List.forall_mem_cons, List.not_mem_nil, false_imp_iff, forall_true_iff,
    and_true]
  exact ⟨ascii_of_hex? ha, ascii_of_hex? hb, ascii_of_hex? hc, ascii_of_hex? hd⟩

/-- A short escape is below 128, and so is what it stands for. -/
theorem ascii_of_escaped? {e x : UInt8} (h : escaped? e = some x) : e < 0x80 ∧ x < 0x80 := by
  rw [escaped?] at h
  split_ifs at h with hquote hslash hsolidus hb hf hn hr ht <;>
    (subst e; obtain rfl := Option.some.inj h; decide)

/-- An escape is a text between texts if the character that it stands for is one. -/
theorem isText_of_escape {escape p t bs : Bytes} {c : Char} (hescape : IsAscii escape)
    (ht : ∀ q, IsText (q ++ bs) → IsText (q ++ t))
    (h : IsText (p ++ (String.utf8EncodeChar c ++ bs))) : IsText (p ++ (escape ++ t)) := by
  obtain ⟨hp, hbs⟩ := h.around
  exact hp.append (hescape.isText.append (ht [] hbs))

/-- **What spells a text between quotes is a text**, also if the bytes before it are the beginning
of a character. -/
theorem Spells.isText {t bs : Bytes} (h : Spells t bs) (p : Bytes) (hbs : IsText (p ++ bs)) :
    IsText (p ++ t) := by
  induction h generalizing p with
  | nil => exact hbs
  | @plain b t bs hb _ ih =>
      rw [List.append_cons] at hbs ⊢
      exact ih (p ++ [b]) hbs
  | @escape e x t bs he _ ih =>
      obtain ⟨hlow, hx⟩ := ascii_of_escaped? he
      obtain ⟨c, hc⟩ := Utf8.exists_char_of_ascii hx
      have hescape : IsAscii [0x5C, e] := by simp [IsAscii, hlow]
      have hchar : IsText (p ++ (String.utf8EncodeChar c ++ bs)) := by rwa [hc]
      exact isText_of_escape hescape ih hchar
  | @unit h₁ h₂ h₃ h₄ u t bs hu _ _ _ ih =>
      have hescape : IsAscii ([0x5C, 0x75] ++ [h₁, h₂, h₃, h₄]) :=
        Utf8.IsAscii.append (by simp [IsAscii]) (ascii_of_unit? hu)
      exact isText_of_escape hescape ih hbs
  | @pair h₁ h₂ h₃ h₄ k₁ k₂ k₃ k₄ u v t bs hu _ hv _ _ ih =>
      have hfirst : IsAscii ([0x5C, 0x75] ++ [h₁, h₂, h₃, h₄]) :=
        Utf8.IsAscii.append (by simp [IsAscii]) (ascii_of_unit? hu)
      have hsecond : IsAscii ([0x5C, 0x75] ++ [k₁, k₂, k₃, k₄]) :=
        Utf8.IsAscii.append (by simp [IsAscii]) (ascii_of_unit? hv)
      exact isText_of_escape (hfirst.append hsecond) ih hbs

end JsonText

/-! ### Numbers -/

namespace Lexeme

theorem ascii_of_digit? {b : UInt8} {d : Nat} (h : digit? b = some d) : b < 0x80 := by
  rw [digit?] at h
  simp only [UInt8.lt_iff_toNat_lt, UInt8.le_iff_toNat_le] at h ⊢
  split at h
  · rename_i hb
    exact Nat.lt_of_le_of_lt hb.2 (by decide)
  · simp at h

theorem SpellsDigits.ascii {t : Bytes} {ds : List Nat} (h : SpellsDigits t ds) : IsAscii t := by
  intro b hb
  have hdigit : digit? b ∈ ds.map some := h.2 ▸ List.mem_map_of_mem hb
  obtain ⟨d, -, hd⟩ := List.mem_map.mp hdigit
  exact ascii_of_digit? hd.symm

theorem SpellsFraction.ascii {t : Bytes} {ds : Option (List Nat)} (h : SpellsFraction t ds) :
    IsAscii t := by
  cases ds with
  | none =>
      rw [show t = [] from h]
      simp [IsAscii]
  | some ds =>
      obtain ⟨u, rfl, hu⟩ := h
      exact List.forall_mem_cons.mpr ⟨by decide, hu.ascii⟩

theorem SpellsExponent.ascii {t : Bytes} {e : Option (Bool × List Nat)} (h : SpellsExponent t e) :
    IsAscii t := by
  cases e with
  | none =>
      rw [show t = [] from h]
      simp [IsAscii]
  | some e =>
      obtain ⟨negative, ds⟩ := e
      obtain ⟨mark, sign, u, rfl, hmark, hsign, hu⟩ := h
      have hmarked : IsAscii [mark] := by rcases hmark with rfl | rfl <;> simp [IsAscii]
      have hsigned : IsAscii sign := by
        split at hsign
        · simp [hsign, IsAscii]
        · rcases hsign with rfl | rfl <;> simp [IsAscii]
      exact (hmarked.append hsigned).append hu.ascii

/-- A number is spelled below 128. -/
theorem Spells.ascii {t : Bytes} {x : Lexeme} (h : Spells t x) : IsAscii t := by
  obtain ⟨sign, whole, fraction, exponent, rfl, hsign, hwhole, hfraction, hexponent⟩ := h
  have hsigned : IsAscii sign := by
    rw [hsign]
    split <;> simp [IsAscii]
  exact hsigned.append (hwhole.1.ascii.append (hfraction.ascii.append hexponent.ascii))

end Lexeme

/-! ### Values -/

namespace Json

theorem Blanks.ascii {ws : Bytes} (h : Blanks ws) : IsAscii ws := by
  intro b hb
  have hblank := h b hb
  simp only [isBlankByte, Bool.or_eq_true, beq_iff_eq] at hblank
  rcases hblank with ((rfl | rfl) | rfl) | rfl <;> decide

/-- A text between marks below 128 is a text. -/
theorem isText_between {t : Bytes} (h : IsText t) {left right : UInt8} (hleft : left < 0x80)
    (hright : right < 0x80) : IsText (left :: (t ++ [right])) := by
  have hl : IsAscii [left] := by simpa [IsAscii] using hleft
  have hr : IsAscii [right] := by simpa [IsAscii] using hright
  exact hl.isText.append (h.append hr.isText)

theorem isText_separated {ts : List Bytes} (h : ∀ t ∈ ts, IsText t) : IsText (separated ts) := by
  induction ts with
  | nil => exact ⟨[], rfl⟩
  | cons t ts ih =>
      have ht := h t List.mem_cons_self
      have hts := ih fun u hu => h u (List.mem_cons_of_mem _ hu)
      cases ts with
      | nil => rwa [separated_singleton]
      | cons u ts =>
          rw [separated_cons_cons]
          have hcomma : IsAscii [0x2C] := by simp [IsAscii]
          exact ht.append (hcomma.isText.append hts)

theorem SpellsName.isText {t : Bytes} {name : String} (h : SpellsName t name) : IsText t := by
  obtain ⟨before, inner, after, hbefore, hafter, rfl, hinner⟩ := h
  have hquoted : IsText (0x22 :: (inner ++ [0x22])) :=
    isText_between (hinner.isText [] (Utf8.isText_encode name)) (by decide) (by decide)
  have hparts := hbefore.ascii.isText.append (hquoted.append hafter.ascii.isText)
  simpa using hparts

/-- **What spells a value is a text.** -/
theorem Spells.isText {depth : Nat} {t : Bytes} {v : Json} (h : Spells depth t v) : IsText t := by
  induction h with
  | blank hbefore hafter _ ih => exact hbefore.ascii.isText.append (ih.append hafter.ascii.isText)
  | @word _ w _ _ => exact Utf8.isText_encode w
  | number ht _ => exact ht.ascii.isText
  | @text _ _ s ht =>
      exact isText_between (ht.isText [] (Utf8.isText_encode s)) (by decide) (by decide)
  | emptyArray hws | emptyObject hws =>
      exact isText_between hws.ascii.isText (by decide) (by decide)
  | @array _ items _ _ ih =>
      refine isText_between (isText_separated fun t ht => ?_) (by decide) (by decide)
      obtain ⟨i, hi, rfl⟩ := List.mem_map.mp ht
      exact ih i hi
  | @object _ members _ hnames _ ih =>
      refine isText_between (isText_separated fun t ht => ?_) (by decide) (by decide)
      obtain ⟨m, hm, rfl⟩ := List.mem_map.mp ht
      have hcolon : IsAscii [0x3A] := by simp [IsAscii]
      exact (hnames m hm).isText.append (hcolon.isText.append (ih m hm))

end Json

end Onboarding
