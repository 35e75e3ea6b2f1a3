import Mathlib.Data.List.Forall2
import Onboarding.Proofs.Json.Fields
import Onboarding.Signing

/-!
# What spells a structure

A structure is spelled by an object that has each of its members exactly once, in any order and
among members with other names, or by an array of its members in order. What spells a member is left
to the structure; a member with another name may have any text with the syntax of a value.

`SignResponse.readStructure` reads these texts and no others, as soon as the same holds of the
reader for its members (`SignResponse.Reads`). The members of an object are taken one after the
other (`SignResponse.Takes`), and what has been found in the end (`SignResponse.Gathers`) is what
the object holds exactly once.

## Main results

* `SignResponse.readMembers_of_gathers`, `SignResponse.gathers_of_readMembers`: members are read as
  they are gathered.
* `SignResponse.Gathers.get?_iff`: what is found is what stands there exactly once.
* `SignResponse.reads_structure`: structures are read as what spells them.
-/

namespace Onboarding.SignResponse

open Json
open Lexeme (Ends)

variable {α : Type}

/-- What spells a value is read as it, up to blanks and whatever follows; what is read spells the
value it is read as. The texts have the syntax of values, and blanks behind them make no
difference. -/
structure Reads (item : Reader α) (R : Bytes → α → Prop) : Prop where
  reads : ∀ {t a rest}, R t a → Ends rest →
    ∃ r, item (t ++ rest) = some (a, r) ∧ skipBlank r = skipBlank rest
  spells : ∀ {bs a rest}, item bs = some (a, rest) → ∃ t, bs = t ++ rest ∧ R t a
  wellFormed : ∀ {t a}, R t a → WellFormed t
  blanksAfter : ∀ {ws t a}, Blanks ws → R t a → R (t ++ ws) a

/-- An object has exactly one member with the name, and its text spells the value. -/
def Holds (R : Bytes → α → Prop) (fields : List Field) (name : String) (a : α) : Prop :=
  ∃ f, namesakes name fields = [f] ∧ R f.text a

/-- A text spells the values of a structure whose members have the given names: as an object that
has each of them exactly once, or as an array of them in order. -/
def SpellsStructure (names : List String) (R : Bytes → α → Prop) (t : Bytes) (values : List α) :
    Prop :=
  (∃ fields, FieldsOf t fields ∧ List.Forall₂ (Holds R fields) names values) ∨
    ∃ before items after, Blanks before ∧ Blanks after ∧
      t = before ++ (0x5B :: (separated items ++ [0x5D]) ++ after) ∧
      items.length = names.length ∧ List.Forall₂ R items values

/-- What has been found after one more member: a value for one of the names that has none yet, or
nothing more. -/
inductive Takes (names : List String) (R : Bytes → α → Prop) (found : List (String × α))
    (f : Field) : List (String × α) → Prop where
  | known {a : α} (hname : f.name ∈ names) (hnew : Entries.get? f.name found = none)
      (hvalue : R f.text a) : Takes names R found f ((f.name, a) :: found)
  | other (hname : f.name ∉ names) : Takes names R found f found

/-- What has been found after members, one after the other. -/
inductive Gathers (names : List String) (R : Bytes → α → Prop) :
    List (String × α) → List Field → List (String × α) → Prop where
  | nil {found : List (String × α)} : Gathers names R found [] found
  | cons {found found' out : List (String × α)} {f : Field} {fs : List Field}
      (hf : Takes names R found f found') (hfs : Gathers names R found' fs out) :
      Gathers names R found (f :: fs) out

variable {names : List String} {item : Reader α} {R : Bytes → α → Prop}

/-- A text spells one value at most. -/
theorem Reads.unique (h : Reads item R) {t : Bytes} {a b : α} (ha : R t a) (hb : R t b) :
    a = b := by
  have hends : Ends [] := by simp [Ends]
  obtain ⟨r, hr, -⟩ := h.reads ha hends
  obtain ⟨s, hs, -⟩ := h.reads hb hends
  rw [hr] at hs
  exact (Prod.mk.inj (Option.some.inj hs)).1

/-! ### Members -/

theorem Takes.padded (hitem : Reads item R) {found found' : List (String × α)} {f : Field}
    (h : Takes names R found f found') {ws : Bytes} (hws : Blanks ws) :
    Takes names R found (f.padded ws) found' := by
  cases h with
  | known hname hnew hvalue => exact .known hname hnew (hitem.blanksAfter hws hvalue)
  | other hname => exact .other hname

/-- A member is read as it is taken. -/
theorem readMember_of_takes (hitem : Reads item R) {found found' : List (String × α)} {f : Field}
    (hf : f.IsProper) (h : Takes names R found f found') {rest : Bytes} (hrest : Ends rest) :
    ∃ r, readMember names item found (f.spelling ++ rest) = some (found', r) ∧
      skipBlank r = skipBlank rest := by
  have hname := name_append hf.1 (f.text ++ rest)
  cases h with
  | @known a hknown hnew hvalue =>
      obtain ⟨r, hread, hr⟩ := hitem.reads hvalue hrest
      refine ⟨r, ?_, hr⟩
      simp [readMember, Field.spelling, hname, hknown, hnew, hread]
  | other hother =>
      have hlength : f.text.length ≤ enough (f.text ++ rest) := by
        rw [enough, List.length_append]
        omega
      obtain ⟨r, hskip, hr⟩ := skips_of_wellFormed hf.2 _ rest hlength hrest
      refine ⟨r, ?_, hr⟩
      simp [readMember, Field.spelling, hname, hother, hskip]

theorem takes_of_readMember (hitem : Reads item R) {found found' : List (String × α)}
    {bs rest : Bytes} (h : readMember names item found bs = some (found', rest)) :
    ∃ f : Field, bs = f.spelling ++ rest ∧ f.IsProper ∧ Takes names R found f found' := by
  rw [readMember] at h
  split at h
  · simp at h
  · rename_i k r hname
    obtain ⟨label, rfl, hlabel⟩ := spelled_name hname
    split_ifs at h with hknown hfound
    · obtain ⟨⟨a, r'⟩, hread, heq⟩ := Option.map_eq_some_iff.mp h
      obtain ⟨rfl, rfl⟩ := Prod.mk.inj heq
      obtain ⟨t, rfl, ht⟩ := hitem.spells hread
      refine ⟨⟨label, k, t⟩, by simp [Field.spelling], ⟨hlabel, hitem.wellFormed ht⟩, ?_⟩
      exact .known hknown (by simpa using hfound) ht
    · obtain ⟨r', hskip, heq⟩ := Option.map_eq_some_iff.mp h
      obtain ⟨rfl, rfl⟩ := Prod.mk.inj heq
      obtain ⟨t, rfl, ht⟩ := (skipped _).1 hskip
      exact ⟨⟨label, k, t⟩, by simp [Field.spelling], ⟨hlabel, ht⟩, .other hknown⟩

/-- **Members are read as they are gathered**, up to the brace. -/
theorem readMembers_of_gathers (hitem : Reads item R) {found out : List (String × α)}
    {fs : List Field} (h : Gathers names R found fs out) (hfs : ∀ f ∈ fs, f.IsProper)
    (hne : fs ≠ []) {count : Nat} (hcount : fs.length ≤ count) (rest : Bytes) :
    readMembers names item count found (separated (fs.map Field.spelling) ++ 0x7D :: rest) =
      some (out, rest) := by
  -- the induction follows the members; what stands behind each is a comma or the last brace
  induction h generalizing count with
  | nil => exact absurd rfl hne
  | @cons found found' out f fs htakes hgathers ih =>
      obtain ⟨hf, hfs'⟩ := List.forall_mem_cons.mp hfs
      obtain ⟨count, rfl⟩ : ∃ n, count = n + 1 := ⟨count - 1, by simp at hcount; omega⟩
      rw [separated_cons_append]
      by_cases hnil : fs = []
      · subst hnil
        cases hgathers
        have hends : Ends (0x7D :: rest) := Lexeme.ends_cons (by decide) _
        obtain ⟨r, hread, hr⟩ := readMember_of_takes hitem hf htakes hends
        rw [skipBlank_cons_of_not_blank rfl] at hr
        simp only [if_true, readMembers, hread, hr]
      · have hends : Ends (0x2C :: (separated (fs.map Field.spelling) ++ 0x7D :: rest)) :=
          Lexeme.ends_cons (by decide) _
        obtain ⟨r, hread, hr⟩ := readMember_of_takes hitem hf htakes hends
        rw [skipBlank_cons_of_not_blank rfl] at hr
        rw [if_neg hnil]
        simp only [readMembers, hread, hr]
        exact ih hfs' hnil (by simpa using hcount)

theorem gathers_of_readMembers (hitem : Reads item R) {count : Nat} {found out : List (String × α)}
    {bs rest : Bytes} (h : readMembers names item count found bs = some (out, rest)) :
    ∃ fs : List Field, fs ≠ [] ∧ bs = separated (fs.map Field.spelling) ++ 0x7D :: rest ∧
      (∀ f ∈ fs, f.IsProper) ∧ Gathers names R found fs out := by
  induction count generalizing found bs with
  | zero => simp [readMembers] at h
  | succ count ih =>
      rw [readMembers] at h
      split at h
      · simp at h
      · rename_i found' r hread
        obtain ⟨f, rfl, hf, htakes⟩ := takes_of_readMember hitem hread
        split at h
        · rename_i r' hcomma
          obtain ⟨ws, hws, rfl⟩ := exists_blanks_of_skipBlank hcomma
          obtain ⟨fs, hne, rfl, hfs, hgathers⟩ := ih h
          refine ⟨f.padded ws :: fs, by simp, ?_, ?_, .cons (htakes.padded hitem hws) hgathers⟩
          · rw [separated_cons_append, if_neg hne, Field.spelling_padded, List.append_assoc]
          · exact List.forall_mem_cons.mpr ⟨hf.padded hws, hfs⟩
        · rename_i r' hclose
          obtain ⟨rfl, rfl⟩ := Prod.mk.inj (Option.some.inj h)
          obtain ⟨ws, hws, rfl⟩ := exists_blanks_of_skipBlank hclose
          refine ⟨[f.padded ws], by simp, ?_, ?_, .cons (htakes.padded hitem hws) .nil⟩
          · rw [separated_cons_append, if_pos rfl, Field.spelling_padded, List.append_assoc]
          · exact List.forall_mem_singleton.mpr (hf.padded hws)
        · simp at h

/-! ### What is found -/

/-- What is found under a name was there before and has come no more, or was not there and has come
exactly once. -/
theorem get?_of_gathers (hitem : Reads item R) {found out : List (String × α)} {fs : List Field}
    (h : Gathers names R found fs out) {name : String} (hname : name ∈ names) (a : α) :
    Entries.get? name out = some a ↔
      (Entries.get? name found = some a ∧ namesakes name fs = []) ∨
        (Entries.get? name found = none ∧ Holds R fs name a) := by
  induction h with
  | nil => simp [Holds]
  | @cons found found' out f fs htakes _ ih =>
      rw [ih]
      simp only [Holds, namesakes_cons]
      cases htakes with
      | @known b hknown hnew hvalue =>
          by_cases hf : f.name = name
          · subst hf
            have hunique : R f.text a ↔ b = a := by
              refine ⟨fun ha => hitem.unique hvalue ha, ?_⟩
              rintro rfl
              exact hvalue
            simp [Entries.get?, hnew, hunique, and_comm]
          · simp [Entries.get?, hf]
      | other hother =>
          have hf : f.name ≠ name := by
            rintro rfl
            exact hother hname
          simp [hf]

/-- **What is found is what stands there exactly once.** -/
theorem Gathers.get?_iff (hitem : Reads item R) {out : List (String × α)} {fs : List Field}
    (h : Gathers names R [] fs out) {name : String} (hname : name ∈ names) (a : α) :
    Entries.get? name out = some a ↔ Holds R fs name a := by
  rw [get?_of_gathers hitem h hname]
  simp [Entries.get?]

/-- Members are gathered if none of the names comes twice and each of their texts spells a value. -/
theorem exists_gathers {fs : List Field} {found : List (String × α)}
    (h : ∀ f ∈ fs, f.name ∈ names →
      Entries.get? f.name found = none ∧ ∃ a, Holds R fs f.name a) :
    ∃ out, Gathers names R found fs out := by
  induction fs generalizing found with
  | nil => exact ⟨found, .nil⟩
  | cons f fs ih =>
      by_cases hknown : f.name ∈ names
      · obtain ⟨hnew, a, g, hg, ha⟩ := h f List.mem_cons_self hknown
        rw [namesakes_cons, if_pos rfl] at hg
        obtain ⟨rfl, hnone⟩ := List.cons.inj hg
        -- the name comes once, so the value that is found for it is in the way of no other member
        have hother : ∀ g ∈ fs, g.name ≠ f.name := by
          intro g hg hgf
          have : g ∈ namesakes f.name fs := by simpa [namesakes] using ⟨hg, hgf⟩
          simp [hnone] at this
        have hrest : ∀ g ∈ fs, g.name ∈ names →
            Entries.get? g.name ((f.name, a) :: found) = none ∧ ∃ b, Holds R fs g.name b := by
          intro g hg hgk
          obtain ⟨hgnew, b, hb⟩ := h g (List.mem_cons_of_mem _ hg) hgk
          have hne : f.name ≠ g.name := (hother g hg).symm
          refine ⟨by simp [Entries.get?, hne, hgnew], b, ?_⟩
          simpa [Holds, namesakes_cons, hne] using hb
        obtain ⟨out, hout⟩ := ih hrest
        exact ⟨out, .cons (.known hknown hnew ha) hout⟩
      · have hrest : ∀ g ∈ fs, g.name ∈ names →
            Entries.get? g.name found = none ∧ ∃ b, Holds R fs g.name b := by
          intro g hg hgk
          obtain ⟨hgnew, b, hb⟩ := h g (List.mem_cons_of_mem _ hg) hgk
          have hne : f.name ≠ g.name := fun heq => hknown (heq ▸ hgk)
          exact ⟨hgnew, b, by simpa [Holds, namesakes_cons, hne] using hb⟩
        obtain ⟨out, hout⟩ := ih hrest
        exact ⟨out, .cons (.other hknown) hout⟩

/-! ### Structures as objects -/

/-- Look-ups that all succeed, said of what each of them finds. -/
theorem mapM_eq_some_iff {β : Type} {f : β → Option α} {S : β → α → Prop} {bs : List β}
    (h : ∀ b ∈ bs, ∀ a, f b = some a ↔ S b a) (as : List α) :
    bs.mapM f = some as ↔ List.Forall₂ S bs as := by
  induction bs generalizing as with
  | nil => simp [eq_comm]
  | cons b bs ih =>
      obtain ⟨hb, hbs⟩ := List.forall_mem_cons.mp h
      simp [List.mapM_cons, List.forall₂_cons_left_iff, Option.bind_eq_some_iff, hb, ih hbs,
        @eq_comm _ as]

/-- Each member has a colon of its own. -/
theorem length_le_count_colon (fs : List Field) :
    fs.length ≤ (separated (fs.map Field.spelling)).count 0x3A := by
  induction fs with
  | nil => exact Nat.zero_le _
  | cons f fs ih =>
      have hf : 1 ≤ f.spelling.count 0x3A := by
        rw [Field.spelling, List.count_append, List.count_cons_self]
        omega
      cases fs with
      | nil => simpa using hf
      | cons g fs =>
          rw [List.map_cons, List.map_cons, separated_cons_cons, List.count_append,
            List.length_cons]
          have := List.count_le_count_cons (a := 0x3A) (b := 0x2C)
            (l := separated (g.spelling :: fs.map Field.spelling))
          rw [List.map_cons] at ih
          omega

/-- No blank is a colon. -/
theorem count_colon_skipBlank (bs : Bytes) : (skipBlank bs).count 0x3A = bs.count 0x3A := by
  obtain ⟨ws, hws, hbs⟩ := exists_blanks bs
  have hnone : ws.count 0x3A = 0 := by
    refine List.count_eq_zero.mpr fun hmem => ?_
    have := hws _ hmem
    simp [isBlankByte] at this
  conv_rhs => rw [hbs]
  rw [List.count_append, hnone, Nat.zero_add]

theorem readMembers_congr {bs bs' : Bytes} (h : skipBlank bs = skipBlank bs') (count : Nat)
    (found : List (String × α)) :
    readMembers names item count found bs = readMembers names item count found bs' := by
  cases count with
  | zero => rw [readMembers, readMembers]
  | succ count => rw [readMembers, readMembers, readMember, readMember, name, name, h]

theorem readStructure_congr {bs bs' : Bytes} (h : skipBlank bs = skipBlank bs') :
    readStructure names item bs = readStructure names item bs' := by
  rw [readStructure, readStructure, h]

/-- What stands between braces, up to the brace behind it. -/
theorem readStructure_braced {bs rest : Bytes} {found : List (String × α)}
    (h : readMembers names item (skipBlank bs).length [] bs = some (found, rest)) :
    readStructure names item (0x7B :: bs) =
      (names.mapM (Entries.get? · found)).map fun values => (values, rest) := by
  have hopen : skipBlank (0x7B :: bs) = 0x7B :: bs := rfl
  simp only [readStructure, hopen]
  split
  · rename_i r hclose
    rw [hclose] at h
    simp [readMembers, readMember, name, hclose] at h
  · rw [readMembers_congr (skipBlank_skipBlank bs), h]
    exact Option.map_eq_bind.symm

theorem exists_holds {fields : List Field} {values : List α}
    (h : List.Forall₂ (Holds R fields) names values) {name : String} (hname : name ∈ names) :
    ∃ a, Holds R fields name a := by
  induction h with
  | nil => simp at hname
  | cons hhead _ ih =>
      rcases List.mem_cons.mp hname with rfl | hname
      · exact ⟨_, hhead⟩
      · exact ih hname

/-- A structure is read from an object that holds its values. -/
theorem readStructure_of_holds (hitem : Reads item R) (hnames : names ≠ []) {fields : List Field}
    {t : Bytes} {values : List α} (ht : FieldsOf t fields)
    (hvalues : List.Forall₂ (Holds R fields) names values) (rest : Bytes) :
    ∃ r, readStructure names item (t ++ rest) = some (values, r) ∧
      skipBlank r = skipBlank rest := by
  obtain ⟨before, inner, after, hbefore, hafter, rfl, hfields, hinner⟩ := ht
  have hne : fields ≠ [] := by
    rintro rfl
    obtain ⟨name, hname⟩ := List.exists_mem_of_ne_nil names hnames
    obtain ⟨a, f, hf, -⟩ := exists_holds hvalues hname
    simp at hf
  rw [if_neg hne] at hinner
  subst hinner
  obtain ⟨out, hgathers⟩ : ∃ out, Gathers names R [] fields out :=
    exists_gathers fun f _ hf => ⟨rfl, exists_holds hvalues hf⟩
  -- the bound on members is taken after the first blanks are gone, so members are counted by
  -- their colons, which are no blanks
  have hcount : fields.length ≤
      (skipBlank (separated (fields.map Field.spelling) ++ 0x7D :: (after ++ rest))).length := by
    have hcolons := length_le_count_colon fields
    have hall := List.count_le_length (a := 0x3A) (l := skipBlank
      (separated (fields.map Field.spelling) ++ 0x7D :: (after ++ rest)))
    rw [count_colon_skipBlank, List.count_append] at hall
    omega
  have hmembers := readMembers_of_gathers hitem hgathers hfields hne hcount (after ++ rest)
  have hfound : names.mapM (Entries.get? · out) = some values :=
    (mapM_eq_some_iff (fun name hname a => hgathers.get?_iff hitem hname a) values).mpr hvalues
  refine ⟨after ++ rest, ?_, skipBlank_blanks hafter rest⟩
  have hread : readStructure names item
      (before ++ 0x7B :: (separated (fields.map Field.spelling) ++ 0x7D :: (after ++ rest))) =
        some (values, after ++ rest) := by
    rw [readStructure_congr (skipBlank_blanks hbefore _), readStructure_braced hmembers, hfound]
    rfl
  simpa using hread

/-- What is read as a structure from an object is what the object holds. -/
theorem holds_of_readStructure (hitem : Reads item R) (hnames : names ≠ []) {bs rest : Bytes}
    {values : List α} (h : readStructure names item (0x7B :: bs) = some (values, rest)) :
    ∃ t fields, 0x7B :: bs = t ++ rest ∧ FieldsOf t fields ∧
      List.Forall₂ (Holds R fields) names values := by
  have hopen : skipBlank (0x7B :: bs) = 0x7B :: bs := rfl
  simp only [readStructure, hopen] at h
  split at h
  · obtain ⟨name, names, rfl⟩ := List.exists_cons_of_ne_nil hnames
    simp [List.mapM_cons, Entries.get?] at h
  · rw [readMembers_congr (skipBlank_skipBlank bs)] at h
    obtain ⟨⟨out, r⟩, hmembers, h⟩ := Option.bind_eq_some_iff.mp h
    obtain ⟨found, hfound, h⟩ := Option.bind_eq_some_iff.mp h
    obtain ⟨rfl, rfl⟩ := Prod.mk.inj (Option.some.inj h)
    obtain ⟨fields, hne, rfl, hfields, hgathers⟩ := gathers_of_readMembers hitem hmembers
    refine ⟨braced fields, fields, by simp [braced], fieldsOf_braced hne hfields, ?_⟩
    exact (mapM_eq_some_iff (fun name hname a => hgathers.get?_iff hitem hname a) _).mp hfound

/-! ### Structures as arrays -/

theorem separated_eq_append (t : Bytes) (ts : List Bytes) :
    separated (t :: ts) = t ++ ts.flatMap (0x2C :: ·) := by
  induction ts generalizing t with
  | nil => simp
  | cons u ts ih => rw [separated_cons_cons, ih, List.flatMap_cons, List.cons_append]

theorem expectByte_of_skipBlank {b : UInt8} {bs rest : Bytes} (h : skipBlank bs = b :: rest) :
    expectByte b bs = some rest := by
  simp [expectByte, h]

theorem blanks_of_expectByte {b : UInt8} {bs rest : Bytes} (h : expectByte b bs = some rest) :
    ∃ ws, Blanks ws ∧ bs = ws ++ b :: rest := by
  rw [expectByte] at h
  split at h
  · rename_i c r hskip
    split_ifs at h with hc
    obtain rfl := Option.some.inj h
    subst hc
    exact exists_blanks_of_skipBlank hskip
  · simp at h

/-- What comes behind a part starts no longer part. -/
theorem ends_flatMap (ts : List Bytes) {rest : Bytes} (hrest : Ends rest) :
    Ends (ts.flatMap (0x2C :: ·) ++ rest) := by
  cases ts with
  | nil => exact hrest
  | cons t ts => exact Lexeme.ends_cons (by decide) _

/-- Parts behind a first one are read, each with a comma in front. -/
theorem readParts_of_forall₂ (hitem : Reads item R) {ts : List Bytes} {values : List α}
    (h : List.Forall₂ R ts values) {bs rest : Bytes}
    (hbs : skipBlank bs = skipBlank (ts.flatMap (0x2C :: ·) ++ rest)) (hrest : Ends rest) :
    ∃ r, readParts item ts.length false bs = some (values, r) ∧ skipBlank r = skipBlank rest := by
  induction h generalizing bs with
  | nil => exact ⟨bs, rfl, hbs⟩
  | @cons t a ts as hhead _ ih =>
      have hcomma : expectByte 0x2C bs = some (t ++ (ts.flatMap (0x2C :: ·) ++ rest)) := by
        refine expectByte_of_skipBlank (hbs.trans ?_)
        rw [List.flatMap_cons, List.cons_append, List.cons_append, List.append_assoc]
        rfl
      obtain ⟨r, hread, hr⟩ := hitem.reads hhead (ends_flatMap ts hrest)
      obtain ⟨r', htail, hr'⟩ := ih hr
      refine ⟨r', ?_, hr'⟩
      simp [readParts, hcomma, hread, htail]

theorem forall₂_of_readParts (hitem : Reads item R) {count : Nat} {bs r rest : Bytes}
    {values : List α} {b : UInt8} (h : readParts item count false bs = some (values, r))
    (hr : skipBlank r = b :: rest) :
    ∃ ws ts, Blanks ws ∧ ts.length = count ∧ List.Forall₂ R ts values ∧
      bs = ws ++ (ts.flatMap (0x2C :: ·) ++ b :: rest) := by
  induction count generalizing bs values with
  | zero =>
      obtain ⟨rfl, rfl⟩ := Prod.mk.inj (Option.some.inj h)
      obtain ⟨ws, hws, rfl⟩ := exists_blanks_of_skipBlank hr
      exact ⟨ws, [], hws, rfl, .nil, rfl⟩
  | succ count ih =>
      obtain ⟨bs', hcomma, h⟩ := Option.bind_eq_some_iff.mp h
      obtain ⟨⟨a, s⟩, hread, h⟩ := Option.bind_eq_some_iff.mp h
      obtain ⟨⟨as, s'⟩, htail, h⟩ := Option.bind_eq_some_iff.mp h
      obtain ⟨rfl, rfl⟩ := Prod.mk.inj (Option.some.inj h)
      obtain ⟨ws, hws, rfl⟩ := blanks_of_expectByte hcomma
      obtain ⟨t, rfl, ht⟩ := hitem.spells hread
      obtain ⟨vs, ts, hvs, rfl, hts, rfl⟩ := ih htail
      exact ⟨ws, (t ++ vs) :: ts, hws, rfl, .cons (hitem.blanksAfter hvs ht) hts, by simp⟩

/-- A structure is read from an array of its values. -/
theorem readStructure_of_forall₂ (hitem : Reads item R) (hnames : names ≠ []) {before after : Bytes}
    {items : List Bytes} {values : List α} (hbefore : Blanks before) (hafter : Blanks after)
    (hlength : items.length = names.length) (h : List.Forall₂ R items values) (rest : Bytes) :
    ∃ r, readStructure names item
        (before ++ (0x5B :: (separated items ++ [0x5D]) ++ after) ++ rest) = some (values, r) ∧
      skipBlank r = skipBlank rest := by
  obtain ⟨name, names, rfl⟩ := List.exists_cons_of_ne_nil hnames
  cases h with
  | nil => simp at hlength
  | @cons t a ts as hhead htail =>
      have hcount : ts.length = names.length := by simpa using hlength
      have hends : Ends (0x5D :: (after ++ rest)) := Lexeme.ends_cons (by decide) _
      obtain ⟨r, hread, hr⟩ := hitem.reads hhead (ends_flatMap ts hends)
      obtain ⟨s, hparts, hs⟩ := readParts_of_forall₂ hitem htail hr hends
      have hclose : expectByte 0x5D s = some (after ++ rest) := expectByte_of_skipBlank hs
      have hopen : skipBlank (0x5B :: (t ++ (ts.flatMap (0x2C :: ·) ++ 0x5D :: (after ++ rest)))) =
          0x5B :: (t ++ (ts.flatMap (0x2C :: ·) ++ 0x5D :: (after ++ rest))) := rfl
      refine ⟨after ++ rest, ?_, skipBlank_blanks hafter rest⟩
      rw [hcount] at hparts
      have hstart : before ++ (0x5B :: (separated (t :: ts) ++ [0x5D]) ++ after) ++ rest =
          before ++ 0x5B :: (t ++ (ts.flatMap (0x2C :: ·) ++ 0x5D :: (after ++ rest))) := by
        simp [separated_eq_append]
      rw [hstart, readStructure_congr (skipBlank_blanks hbefore _)]
      simp [readStructure, hopen, readParts, hread, hparts, hclose]

theorem forall₂_of_readStructure (hitem : Reads item R) (hnames : names ≠ []) {bs rest : Bytes}
    {values : List α} (h : readStructure names item (0x5B :: bs) = some (values, rest)) :
    ∃ items, 0x5B :: bs = 0x5B :: (separated items ++ [0x5D]) ++ rest ∧
      items.length = names.length ∧ List.Forall₂ R items values := by
  obtain ⟨name, names, rfl⟩ := List.exists_cons_of_ne_nil hnames
  have hopen : skipBlank (0x5B :: bs) = 0x5B :: bs := rfl
  simp only [readStructure, hopen] at h
  obtain ⟨⟨as, r⟩, hparts, h⟩ := Option.bind_eq_some_iff.mp h
  obtain ⟨s, hclose, h⟩ := Option.bind_eq_some_iff.mp h
  obtain ⟨rfl, rfl⟩ := Prod.mk.inj (Option.some.inj h)
  obtain ⟨⟨a, s'⟩, hread, hparts⟩ := Option.bind_eq_some_iff.mp hparts
  obtain ⟨⟨as', s''⟩, htail, hparts⟩ := Option.bind_eq_some_iff.mp hparts
  obtain ⟨rfl, rfl⟩ := Prod.mk.inj (Option.some.inj hparts)
  obtain ⟨vs, hvs, rfl⟩ := blanks_of_expectByte hclose
  obtain ⟨t, rfl, ht⟩ := hitem.spells hread
  have hbracket : skipBlank (vs ++ 0x5D :: s) = 0x5D :: s := skipBlank_blanks hvs _
  obtain ⟨ws, ts, hws, hlength, hts, rfl⟩ := forall₂_of_readParts hitem htail hbracket
  refine ⟨(t ++ ws) :: ts, by simp [separated_eq_append], by simpa using hlength, ?_⟩
  exact .cons (hitem.blanksAfter hws ht) hts

/-! ### Structures -/

theorem wellFormed_of_forall₂ (hitem : Reads item R) {ts : List Bytes} {values : List α}
    (h : List.Forall₂ R ts values) : ∀ t ∈ ts, WellFormed t := by
  induction h with
  | nil => simp
  | cons hhead _ ih => exact List.forall_mem_cons.mpr ⟨hitem.wellFormed hhead, ih⟩

/-- **Structures are read as what spells them**, if their members are. -/
theorem reads_structure (hnames : names ≠ []) (hitem : Reads item R) :
    Reads (readStructure names item) (SpellsStructure names R) where
  reads := by
    rintro t values rest (⟨fields, ht, hvalues⟩ |
      ⟨before, items, after, hbefore, hafter, rfl, hlength, hitems⟩) -
    · exact readStructure_of_holds hitem hnames ht hvalues rest
    · exact readStructure_of_forall₂ hitem hnames hbefore hafter hlength hitems rest
  spells := by
    intro bs values rest h
    obtain ⟨ws, hws, hbs⟩ := exists_blanks bs
    rw [readStructure_congr (skipBlank_skipBlank bs).symm] at h
    cases hskip : skipBlank bs with
    | nil =>
        rw [hskip] at h
        simp [readStructure, skipBlank] at h
    | cons b r =>
        rw [hskip] at h hbs
        have hb : skipBlank (b :: r) = b :: r := by rw [← hskip, skipBlank_skipBlank]
        by_cases hbracket : b = 0x5B
        · subst hbracket
          obtain ⟨items, hr, hlength, hitems⟩ := forall₂_of_readStructure hitem hnames h
          refine ⟨ws ++ 0x5B :: (separated items ++ [0x5D]), by rw [hbs, hr]; simp, .inr ?_⟩
          exact ⟨ws, items, [], hws, .nil, by simp, hlength, hitems⟩
        · by_cases hbrace : b = 0x7B
          · subst hbrace
            obtain ⟨t, fields, hr, ht, hvalues⟩ := holds_of_readStructure hitem hnames h
            refine ⟨ws ++ t, by rw [hbs, hr]; simp, .inl ⟨fields, ht.blanksBefore hws, hvalues⟩⟩
          · simp [readStructure, hb, hbracket, hbrace] at h
  wellFormed := by
    rintro t values (⟨fields, ht, -⟩ |
      ⟨before, items, after, hbefore, hafter, rfl, hlength, hitems⟩)
    · exact ht.wellFormed
    · have hne : items ≠ [] := by
        rintro rfl
        exact hnames (List.length_eq_zero_iff.mp hlength.symm)
      have := WellFormed.blank hbefore hafter (.array hne (wellFormed_of_forall₂ hitem hitems))
      simpa using this
  blanksAfter := by
    rintro ws t values hws (⟨fields, ht, hvalues⟩ |
      ⟨before, items, after, hbefore, hafter, rfl, hlength, hitems⟩)
    · exact .inl ⟨fields, ht.blanksAfter hws, hvalues⟩
    · exact .inr ⟨before, items, after ++ ws, hbefore, hafter.append hws, by simp, hlength, hitems⟩

/-- An object that spells a structure holds its values. -/
theorem SpellsStructure.holds {t : Bytes} {values : List α} (h : SpellsStructure names R t values)
    {fields : List Field} (ht : FieldsOf t fields) :
    List.Forall₂ (Holds R fields) names values := by
  rcases h with ⟨fields', ht', hvalues⟩ | ⟨ws, items, after, hws, -, rfl, -⟩
  · rwa [ht.unique ht']
  · obtain ⟨before, inner, after', hbefore, -, heq, -⟩ := ht
    have hbrace := congrArg skipBlank heq
    rw [skipBlank_blanks hws, skipBlank_blanks hbefore] at hbrace
    simp [skipBlank, isBlankByte] at hbrace

end Onboarding.SignResponse
