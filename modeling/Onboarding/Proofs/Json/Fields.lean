import Onboarding.Proofs.Json.Syntax

/-!
# Members of objects whose values nobody has looked at

A text of an object says which members the object has, in which order, and what stands behind the
colon of each: a text with the syntax of a value. It says so in one way only, so members may be
counted by their names (`Json.namesakes`).

## Main results

* `Json.FieldsOf.unique`: a text of an object has one list of members.
-/

namespace Onboarding

namespace Json

/-- A member of an object as a text has it, with a value that nobody has looked at. -/
structure Field where
  /-- What stands before the colon. -/
  label : Bytes
  name : String
  /-- What stands behind the colon. -/
  text : Bytes
  deriving DecidableEq

namespace Field

/-- The text of a member. -/
def spelling (f : Field) : Bytes :=
  f.label ++ 0x3A :: f.text

/-- The label spells the name, and the text has the syntax of a value. -/
def IsProper (f : Field) : Prop :=
  SpellsName f.label f.name ∧ WellFormed f.text

instance (f : Field) : Decidable f.IsProper :=
  inferInstanceAs (Decidable (_ ∧ _))

/-- A member with blanks behind it. -/
def padded (f : Field) (ws : Bytes) : Field :=
  { f with text := f.text ++ ws }

theorem spelling_padded (f : Field) (ws : Bytes) : (f.padded ws).spelling = f.spelling ++ ws := by
  simp [padded, spelling]

theorem IsProper.padded {f : Field} (h : f.IsProper) {ws : Bytes} (hws : Blanks ws) :
    (f.padded ws).IsProper :=
  ⟨h.1, h.2.blanksAfter hws⟩

end Field

/-- A text of an object, with its members in the order in which the text has them. -/
def FieldsOf (t : Bytes) (fields : List Field) : Prop :=
  ∃ before inner after, Blanks before ∧ Blanks after ∧
    t = before ++ (0x7B :: (inner ++ [0x7D]) ++ after) ∧ (∀ f ∈ fields, f.IsProper) ∧
      if fields = [] then Blanks inner else inner = separated (fields.map Field.spelling)

/-- The members with a name. -/
def namesakes (name : String) (fields : List Field) : List Field :=
  fields.filter fun f => f.name = name

@[simp] theorem namesakes_nil (name : String) : namesakes name [] = [] := rfl

theorem namesakes_cons (name : String) (f : Field) (fs : List Field) :
    namesakes name (f :: fs) =
      if f.name = name then f :: namesakes name fs else namesakes name fs := by
  simp [namesakes, List.filter_cons]

/-- Members with commas between them, in braces. -/
def braced (fields : List Field) : Bytes :=
  0x7B :: (separated (fields.map Field.spelling) ++ [0x7D])

theorem fieldsOf_braced {fields : List Field} (hne : fields ≠ []) (h : ∀ f ∈ fields, f.IsProper) :
    FieldsOf (braced fields) fields :=
  ⟨[], separated (fields.map Field.spelling), [], .nil, .nil, by simp [braced], h,
    by rw [if_neg hne]⟩

/-- An object has the syntax of a value. -/
theorem FieldsOf.wellFormed {t : Bytes} {fields : List Field} (h : FieldsOf t fields) :
    WellFormed t := by
  obtain ⟨before, inner, after, hbefore, hafter, rfl, hfields, hinner⟩ := h
  refine .blank hbefore hafter ?_
  split at hinner
  · exact .emptyObject hinner
  · rename_i hne
    have hspelling : fields.map Field.spelling =
        (fields.map fun f => (f.label, f.text)).map fun m => m.1 ++ 0x3A :: m.2 := by
      rw [List.map_map]
      rfl
    rw [hinner, hspelling]
    refine .object (mt List.map_eq_nil_iff.mp hne) (fun m hm => ?_) fun m hm => ?_
    · obtain ⟨f, hf, rfl⟩ := List.mem_map.mp hm
      exact .of_spells (hfields f hf).1
    · obtain ⟨f, hf, rfl⟩ := List.mem_map.mp hm
      exact (hfields f hf).2

theorem FieldsOf.blanksBefore {t ws : Bytes} {fields : List Field} (h : FieldsOf t fields)
    (hws : Blanks ws) : FieldsOf (ws ++ t) fields := by
  obtain ⟨before, inner, after, hbefore, hafter, rfl, hmembers⟩ := h
  exact ⟨ws ++ before, inner, after, hws.append hbefore, hafter, by simp, hmembers⟩

theorem FieldsOf.blanksAfter {t ws : Bytes} {fields : List Field} (h : FieldsOf t fields)
    (hws : Blanks ws) : FieldsOf (t ++ ws) fields := by
  obtain ⟨before, inner, after, hbefore, hafter, rfl, hmembers⟩ := h
  exact ⟨before, inner, after ++ ws, hbefore, hafter.append hws, by simp, hmembers⟩

/-- Members with commas between them, up to the brace behind them. -/
theorem separated_cons_append (f : Field) (fs : List Field) (rest : Bytes) :
    separated ((f :: fs).map Field.spelling) ++ 0x7D :: rest =
      f.spelling ++ if fs = [] then 0x7D :: rest
        else 0x2C :: (separated (fs.map Field.spelling) ++ 0x7D :: rest) := by
  cases fs with
  | nil => simp
  | cons g fs => simp [separated_cons_cons]

/-- Behind a member stands a comma or the brace. -/
theorem exists_closes (fs : List Field) (rest : Bytes) :
    ∃ b r, Closes b ∧ (if fs = [] then 0x7D :: rest
      else 0x2C :: (separated (fs.map Field.spelling) ++ 0x7D :: rest)) = b :: r := by
  by_cases hfs : fs = []
  · exact ⟨0x7D, rest, .inr (.inr rfl), if_pos hfs⟩
  · exact ⟨0x2C, _, .inl rfl, if_neg hfs⟩

/-- A member has one label, one name and one text. -/
theorem Field.eq_of_append_eq {f g : Field} {r s : Bytes} {b c : UInt8} (hf : f.IsProper)
    (hg : g.IsProper) (hb : Closes b) (hc : Closes c)
    (h : f.spelling ++ b :: r = g.spelling ++ c :: s) : f = g ∧ b :: r = c :: s := by
  obtain ⟨label, s₁, text⟩ := f
  obtain ⟨label', s₂, text'⟩ := g
  simp only [Field.spelling, List.append_assoc, List.cons_append] at h
  have hname := name_append hf.1 (text ++ b :: r)
  rw [h, name_append hg.1] at hname
  obtain ⟨rfl, hrest⟩ := Prod.mk.inj (Option.some.inj hname)
  obtain rfl : text' = text := hg.2.eq_of_append_eq hf.2 hc hb hrest
  have hclose : c :: s = b :: r := List.append_cancel_left hrest
  rw [hclose] at h
  obtain rfl : label = label' := List.append_cancel_right h
  exact ⟨rfl, hclose.symm⟩

theorem separated_injective {fs gs : List Field} (hfs : ∀ f ∈ fs, f.IsProper)
    (hgs : ∀ g ∈ gs, g.IsProper) (hf : fs ≠ []) (hg : gs ≠ []) {r s : Bytes}
    (h : separated (fs.map Field.spelling) ++ 0x7D :: r =
      separated (gs.map Field.spelling) ++ 0x7D :: s) : fs = gs := by
  induction fs generalizing gs with
  | nil => exact absurd rfl hf
  | cons f fs ih =>
      obtain ⟨g, gs, rfl⟩ := List.exists_cons_of_ne_nil hg
      obtain ⟨hproper, hfs'⟩ := List.forall_mem_cons.mp hfs
      obtain ⟨hproper', hgs'⟩ := List.forall_mem_cons.mp hgs
      rw [separated_cons_append, separated_cons_append] at h
      obtain ⟨b, r', hb, hbr⟩ := exists_closes fs r
      obtain ⟨c, s', hc, hcs⟩ := exists_closes gs s
      rw [hbr, hcs] at h
      obtain ⟨rfl, hrest⟩ := Field.eq_of_append_eq hproper hproper' hb hc h
      rw [← hbr, ← hcs] at hrest
      by_cases hfn : fs = [] <;> by_cases hgn : gs = []
      · rw [hfn, hgn]
      · simp [hfn, hgn] at hrest
      · simp [hfn, hgn] at hrest
      · rw [if_neg hfn, if_neg hgn] at hrest
        rw [ih hfs' hgs' hfn hgn (List.cons.inj hrest).2]

/-- The members of an object, with the brace behind them, begin with a name; blanks do not. -/
theorem blanks_ne_separated {fs : List Field} (hfs : ∀ f ∈ fs, f.IsProper) (hne : fs ≠ [])
    {ws r s : Bytes} (hws : Blanks ws) :
    ws ++ 0x7D :: r ≠ separated (fs.map Field.spelling) ++ 0x7D :: s := by
  intro h
  obtain ⟨f, fs, rfl⟩ := List.exists_cons_of_ne_nil hne
  have hf : f.IsProper := hfs f List.mem_cons_self
  rw [separated_cons_append, Field.spelling, List.append_assoc, List.cons_append] at h
  have hname := name_append hf.1
    (f.text ++ if fs = [] then 0x7D :: s
      else 0x2C :: (separated (fs.map Field.spelling) ++ 0x7D :: s))
  have hbrace : skipBlank (ws ++ 0x7D :: r) = 0x7D :: r := skipBlank_blanks hws _
  rw [← h, name, hbrace] at hname
  simp at hname

/-- **A text of an object has one list of members.** -/
theorem FieldsOf.unique {t : Bytes} {fs gs : List Field} (hf : FieldsOf t fs)
    (hg : FieldsOf t gs) : fs = gs := by
  obtain ⟨before, inner, after, hbefore, -, rfl, hfs, hinner⟩ := hf
  obtain ⟨before', inner', after', hbefore', -, ht, hgs, hinner'⟩ := hg
  have h := congrArg skipBlank ht
  rw [skipBlank_blanks hbefore, skipBlank_blanks hbefore'] at h
  obtain ⟨-, h⟩ : (0x7B : UInt8) = 0x7B ∧
      inner ++ 0x7D :: after = inner' ++ 0x7D :: after' := by
    simpa [skipBlank, isBlankByte] using h
  by_cases hfn : fs = [] <;> by_cases hgn : gs = []
  · rw [hfn, hgn]
  · rw [if_pos hfn] at hinner
    rw [if_neg hgn] at hinner'
    exact absurd (hinner' ▸ h) (blanks_ne_separated hgs hgn hinner)
  · rw [if_neg hfn] at hinner
    rw [if_pos hgn] at hinner'
    exact absurd (hinner ▸ h).symm (blanks_ne_separated hfs hfn hinner')
  · rw [if_neg hfn] at hinner
    rw [if_neg hgn] at hinner'
    subst hinner hinner'
    exact separated_injective hfs hgs hfn hgn h

end Json

end Onboarding
