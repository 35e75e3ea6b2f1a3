import Onboarding.Json.Reader
import Onboarding.Proofs.Json.Texts

/-!
# The grammar of JSON texts

What the readers of `Onboarding.Json.Reader` do step by step is said here as a relation between texts
and what they spell, which knows nothing of readers: blanks may stand around every value and every
name, a character may be spelled by itself or by an escape, and an object is spelled by its members
in any order, a name as often as one likes. A text may nest as deep as the relation allows.

The relations are built from their parts: `JsonText.Spells` for what stands between quotes,
`Lexeme.Spells` for numbers, and `Json.Spells` for values.

## Main results

* `Json.Spells.object_cases`: a text that spells an object is a list of members in braces.
-/

namespace Onboarding

/-! ### Texts between quotes -/

namespace JsonText

/-- What stands between quotes spells bytes: each byte by itself or by a short escape, and the bytes
of a character also by one escaped unit, or by a pair of them. -/
inductive Spells : Bytes → Bytes → Prop where
  | nil : Spells [] []
  | plain {b : UInt8} {t bs : Bytes} (hb : IsInner b) : Spells t bs → Spells (b :: t) (b :: bs)
  | escape {e x : UInt8} {t bs : Bytes} (he : escaped? e = some x) :
      Spells t bs → Spells (0x5C :: e :: t) (x :: bs)
  | unit {h₁ h₂ h₃ h₄ : UInt8} {u : Nat} {t bs : Bytes} (hu : unit? h₁ h₂ h₃ h₄ = some u)
      (hhigh : isHigh u = false) (hlow : isLow u = false) :
      Spells t bs → Spells (0x5C :: 0x75 :: h₁ :: h₂ :: h₃ :: h₄ :: t) (ofCodePoint u ++ bs)
  | pair {h₁ h₂ h₃ h₄ k₁ k₂ k₃ k₄ : UInt8} {u v : Nat} {t bs : Bytes}
      (hu : unit? h₁ h₂ h₃ h₄ = some u) (hhigh : isHigh u = true)
      (hv : unit? k₁ k₂ k₃ k₄ = some v) (hlow : isLow v = true) :
      Spells t bs →
      Spells (0x5C :: 0x75 :: h₁ :: h₂ :: h₃ :: h₄ :: 0x5C :: 0x75 :: k₁ :: k₂ :: k₃ :: k₄ :: t)
        (ofCodePoint (0x10000 + (u - 0xD800) * 0x400 + (v - 0xDC00)) ++ bs)

end JsonText

/-! ### Numbers -/

namespace Lexeme

/-- At least one digit, with the values of the digits. -/
def SpellsDigits (t : Bytes) (ds : List Nat) : Prop :=
  ds ≠ [] ∧ t.map digit? = ds.map some

/-- The digits before the point; a zero in front stands alone. -/
def SpellsWhole (t : Bytes) (ds : List Nat) : Prop :=
  SpellsDigits t ds ∧ (ds.head? = some 0 → ds = [0])

/-- The point with the digits behind it, if there is one. -/
def SpellsFraction (t : Bytes) : Option (List Nat) → Prop
  | none => t = []
  | some ds => ∃ u, t = 0x2E :: u ∧ SpellsDigits u ds

/-- The exponent with its mark and its sign, if there is one. -/
def SpellsExponent (t : Bytes) : Option (Bool × List Nat) → Prop
  | none => t = []
  | some (negative, ds) =>
    ∃ mark sign u, t = mark :: sign ++ u ∧ (mark = 0x65 ∨ mark = 0x45) ∧
      (if negative then sign = [0x2D] else sign = [] ∨ sign = [0x2B]) ∧ SpellsDigits u ds

/-- A number is spelled by its parts, one behind the other. -/
def Spells (t : Bytes) (x : Lexeme) : Prop :=
  ∃ sign whole fraction exponent, t = sign ++ (whole ++ (fraction ++ exponent)) ∧
    (sign = if x.negative then [0x2D] else []) ∧ SpellsWhole whole x.whole ∧
    SpellsFraction fraction x.fraction ∧ SpellsExponent exponent x.exponent

end Lexeme

/-! ### Values -/

namespace Json

/-- Bytes that may stand around the parts of a text. -/
def Blanks (ws : Bytes) : Prop :=
  ∀ b ∈ ws, isBlankByte b = true

/-- A name in quotes, with blanks around it. -/
def SpellsName (t : Bytes) (name : String) : Prop :=
  ∃ before inner after, Blanks before ∧ Blanks after ∧
    t = before ++ 0x22 :: (inner ++ 0x22 :: after) ∧ JsonText.Spells inner (Utf8.encode name)

/-- A member of an object as a text has it. -/
structure Member where
  /-- What stands before the colon. -/
  label : Bytes
  name : String
  /-- What stands behind the colon. -/
  text : Bytes
  value : Json

namespace Member

/-- The text of a member. -/
def spelling (m : Member) : Bytes :=
  m.label ++ 0x3A :: m.text

/-- The name of a member with its value. -/
def entry (m : Member) : String × Json :=
  (m.name, m.value)

end Member

/-- Texts with commas between them. -/
def separated (ts : List Bytes) : Bytes :=
  [0x2C].intercalate ts

/-- The words that are values. -/
def words : List (String × Json) :=
  [("null", null), ("true", bool true), ("false", bool false)]

/-- A text spells a value, nested at most as deep as is said. Of equal names of an object the last
one counts. -/
inductive Spells : Nat → Bytes → Json → Prop where
  | blank {depth : Nat} {before t after : Bytes} {v : Json} (hbefore : Blanks before)
      (hafter : Blanks after) : Spells depth t v → Spells depth (before ++ (t ++ after)) v
  | word {depth : Nat} {w : String} {v : Json} (hw : (w, v) ∈ words) :
      Spells depth (Utf8.encode w) v
  | number {depth : Nat} {t : Bytes} {x : Lexeme} {n : JsonNumber} (ht : Lexeme.Spells t x)
      (hn : x.value? = some n) : Spells depth t (number n)
  | text {depth : Nat} {t : Bytes} {s : String} (ht : JsonText.Spells t (Utf8.encode s)) :
      Spells depth (0x22 :: (t ++ [0x22])) (text s)
  | emptyArray {depth : Nat} {ws : Bytes} (hws : Blanks ws) :
      Spells (depth + 1) (0x5B :: (ws ++ [0x5D])) (array [])
  | array {depth : Nat} {items : List (Bytes × Json)} (hne : items ≠ [])
      (hitems : ∀ i ∈ items, Spells depth i.1 i.2) :
      Spells (depth + 1) (0x5B :: (separated (items.map Prod.fst) ++ [0x5D]))
        (array (items.map Prod.snd))
  | emptyObject {depth : Nat} {ws : Bytes} (hws : Blanks ws) :
      Spells (depth + 1) (0x7B :: (ws ++ [0x7D])) (object [])
  | object {depth : Nat} {members : List Member} (hne : members ≠ [])
      (hnames : ∀ m ∈ members, SpellsName m.label m.name)
      (hvalues : ∀ m ∈ members, Spells depth m.text m.value) :
      Spells (depth + 1) (0x7B :: (separated (members.map Member.spelling) ++ [0x7D]))
        (ofMembers (members.map Member.entry))

/-- What stands between the braces of an object: its members in their order, or blanks. -/
def SpellsMembers (depth : Nat) (t : Bytes) (members : List Member) : Prop :=
  (∀ m ∈ members, SpellsName m.label m.name ∧ Spells depth m.text m.value) ∧
    if members = [] then Blanks t else t = separated (members.map Member.spelling)

/-- A text of an object, with its members in the order in which the text has them. -/
def SpellsObject (depth : Nat) (t : Bytes) (members : List Member) : Prop :=
  ∃ before inner after, Blanks before ∧ Blanks after ∧
    t = before ++ (0x7B :: (inner ++ [0x7D]) ++ after) ∧ SpellsMembers depth inner members

/-! ### Texts of objects -/

theorem Blanks.nil : Blanks [] := by
  intro b hb
  simp at hb

theorem Blanks.append {ws vs : Bytes} (hws : Blanks ws) (hvs : Blanks vs) : Blanks (ws ++ vs) := by
  intro b hb
  exact (List.mem_append.mp hb).elim (hws b) (hvs b)

/-- A text of an object spells the object that is made of its members. -/
theorem SpellsObject.spells {depth : Nat} {t : Bytes} {members : List Member}
    (h : SpellsObject depth t members) :
    Spells (depth + 1) t (ofMembers (members.map Member.entry)) := by
  obtain ⟨before, inner, after, hbefore, hafter, rfl, hmembers, hinner⟩ := h
  refine .blank hbefore hafter ?_
  split at hinner
  · rename_i hnil
    subst hnil
    exact .emptyObject hinner
  · rename_i hne
    subst hinner
    exact .object hne (fun m hm => (hmembers m hm).1) fun m hm => (hmembers m hm).2

/-- **A text that spells an object is a text of its members**; any other text spells no object. -/
theorem Spells.object_cases {depth : Nat} {t : Bytes} {v : Json} (h : Spells (depth + 1) t v) :
    (∃ members, SpellsObject depth t members ∧ v = ofMembers (members.map Member.entry)) ∨
      ∀ ms, v ≠ .object ms := by
  generalize hd : depth + 1 = d at h
  induction h with
  | @blank d before t after v hbefore hafter _ ih =>
      rcases ih hd with ⟨members, ⟨ws, inner, vs, hws, hvs, rfl, hmembers⟩, hv⟩ | hv
      · refine .inl ⟨members, ⟨before ++ ws, inner, vs ++ after, hbefore.append hws,
          hvs.append hafter, ?_, hmembers⟩, hv⟩
        simp
      · exact .inr hv
  | word hw =>
      refine .inr fun ms hv => ?_
      subst hv
      simp [words] at hw
  | number | text | emptyArray | array => exact .inr fun ms => nofun
  | @emptyObject d ws hws =>
      obtain rfl : depth = d := Nat.succ.inj hd
      refine .inl ⟨[], ⟨[], ws, [], .nil, .nil, by simp, ?_⟩, rfl⟩
      exact ⟨by simp, by rwa [if_pos rfl]⟩
  | @object d members hne hnames hvalues =>
      obtain rfl : depth = d := Nat.succ.inj hd
      refine .inl ⟨members, ⟨[], separated (members.map Member.spelling), [], .nil, .nil, by simp,
        ?_⟩, rfl⟩
      exact ⟨fun m hm => ⟨hnames m hm, hvalues m hm⟩, by rw [if_neg hne]⟩

end Json

end Onboarding
