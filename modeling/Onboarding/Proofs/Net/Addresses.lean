import Onboarding.Net.Address
import Onboarding.Proofs.Number.Numerals

/-!
# The grammar of socket addresses

The readers of `Onboarding.Net.Address` go from the left to the right and take what they can. What
they accept is said here without them: a dotted address is four numbers with dots between them, a
colon address is groups with colons between them, eight in all, or fewer and one double colon for
the groups that are left out. A scope may stand behind a colon address, and brackets around both; a
port stands behind a colon.

A reader takes digits as long as there are any, so it matters what follows a number. Behind
`Address.Closes` nothing goes on with an address, and there the readers find exactly what is
spelled.

## Main results

* `Address.number_eq_some_iff`, `Address.ipv4_eq_some_iff`: what the readers of numbers and dotted
  addresses take.
* `Address.exists_of_ipv6`, `Address.ipv6_append`: a colon address is taken if it is spelled, and
  only then.
* `SocketAddress.parse?_eq_some_iff`: a text is read exactly as the grammar says that it spells.
-/

namespace Onboarding

namespace Address

/-! ### Numbers -/

/-- No digit of the base comes next. -/
def NoDigit (radix : Nat) (rest : List Char) : Prop :=
  ∀ c ∈ rest.head?, digit? radix c = none

/-- Digits that a numbering allows. -/
structure Numbering.Allows (f : Numbering) (ds : List Nat) : Prop where
  nonempty : ds ≠ []
  width : ∀ w ∈ f.width, ds.length ≤ w
  leadingZeros : ds.head? = some 0 → f.leadingZeros = true ∨ ds.length ≤ 1
  greatest : Numeral.ofDigits f.radix ds ≤ f.greatest

/-- A number as a numbering has it written. -/
def SpellsNumber (f : Numbering) (t : List Char) (n : Nat) : Prop :=
  ∃ ds : List Nat, t.map (digit? f.radix) = ds.map some ∧ f.Allows ds ∧
    Numeral.ofDigits f.radix ds = n

/-- Digits are taken up to the first sign that is none. -/
theorem takeDigits_append {radix : Nat} {t : List Char} {ds : List Nat}
    (ht : t.map (digit? radix) = ds.map some) {rest : List Char} (hrest : NoDigit radix rest) :
    takeDigits radix (t ++ rest) = (ds, rest) := by
  induction t generalizing ds with
  | nil =>
      obtain rfl : ds = [] := by simpa using ht.symm
      cases rest with
      | nil => rfl
      | cons c r =>
          have hc : digit? radix c = none := hrest c rfl
          rw [List.nil_append, takeDigits, hc]
  | cons c t ih =>
      cases ds with
      | nil => simp at ht
      | cons d ds =>
          obtain ⟨hc, htail⟩ := List.cons.inj ht
          rw [List.cons_append, takeDigits, hc]
          simp only [ih htail]

/-- What is taken are digits, and no digit comes next. -/
theorem exists_of_takeDigits {radix : Nat} {cs rest : List Char} {ds : List Nat}
    (h : takeDigits radix cs = (ds, rest)) :
    ∃ t, cs = t ++ rest ∧ t.map (digit? radix) = ds.map some ∧ NoDigit radix rest := by
  induction cs generalizing ds with
  | nil =>
      obtain ⟨rfl, rfl⟩ := Prod.mk.inj h
      exact ⟨[], rfl, rfl, by simp [NoDigit]⟩
  | cons c r ih =>
      rw [takeDigits] at h
      split at h
      · rename_i d hd
        obtain ⟨rfl, rfl⟩ := Prod.mk.inj h
        obtain ⟨t, ht, hds, hrest⟩ := ih rfl
        refine ⟨c :: t, by rw [List.cons_append, ← ht], ?_, hrest⟩
        rw [List.map_cons, List.map_cons, hd, hds]
      · rename_i hd
        obtain ⟨rfl, rfl⟩ := Prod.mk.inj h
        refine ⟨[], rfl, rfl, ?_⟩
        intro e he
        obtain rfl : c = e := by simpa using he
        exact hd

/-- A number is read exactly if the digits at the start are allowed. -/
theorem number_eq_some_iff_takeDigits {f : Numbering} {cs rest : List Char} {n : Nat} :
    number f cs = some (n, rest) ↔
      ∃ ds, takeDigits f.radix cs = (ds, rest) ∧ f.Allows ds ∧ Numeral.ofDigits f.radix ds = n := by
  obtain ⟨ds, r, htake⟩ : ∃ ds r, takeDigits f.radix cs = (ds, r) := ⟨_, _, rfl⟩
  have hwidth : f.width.any (· < ds.length) = true ↔ ¬∀ w ∈ f.width, ds.length ≤ w := by
    cases f.width <;> simp
  have hzero : (!f.leadingZeros && ds.head? == some 0 && decide (1 < ds.length)) = true ↔
      ¬(ds.head? = some 0 → f.leadingZeros = true ∨ ds.length ≤ 1) := by
    simp only [Bool.and_eq_true, Bool.not_eq_true', beq_iff_eq, decide_eq_true_eq]
    grind
  have hsome : number f cs = some (n, rest) ↔
      f.Allows ds ∧ r = rest ∧ Numeral.ofDigits f.radix ds = n := by
    rw [number]
    simp only [htake, List.isEmpty_iff, hwidth, hzero]
    constructor
    · intro h
      split at h
      · simp at h
      · split at h
        · simp at h
        · split at h
          · simp at h
          · split at h
            · simp at h
            · rename_i hne hw hz hle
              obtain ⟨hn, hr⟩ := Prod.mk.inj (Option.some.inj h)
              exact ⟨⟨hne, Decidable.not_not.mp hw, Decidable.not_not.mp hz, Nat.le_of_not_lt hle⟩,
                hr, hn⟩
    · rintro ⟨⟨hne, hw, hz, hle⟩, rfl, hn⟩
      rw [if_neg hne, if_neg (not_not_intro hw), if_neg (not_not_intro hz)]
      exact (if_neg (Nat.not_lt.mpr hle)).trans (congrArg some (Prod.ext hn rfl))
  rw [hsome, htake]
  constructor
  · rintro ⟨hallows, rfl, hn⟩
    exact ⟨ds, rfl, hallows, hn⟩
  · rintro ⟨ds', heq, hallows, hn⟩
    obtain ⟨rfl, rfl⟩ := Prod.mk.inj heq
    exact ⟨hallows, rfl, hn⟩

/-- **A number is read** exactly where one is spelled and no digit goes on with it. -/
theorem number_eq_some_iff {f : Numbering} {cs rest : List Char} {n : Nat} :
    number f cs = some (n, rest) ↔
      ∃ t, cs = t ++ rest ∧ SpellsNumber f t n ∧ NoDigit f.radix rest := by
  rw [number_eq_some_iff_takeDigits]
  constructor
  · rintro ⟨ds, htake, hallows, hn⟩
    obtain ⟨t, ht, hds, hrest⟩ := exists_of_takeDigits htake
    exact ⟨t, ht, ⟨ds, hds, hallows, hn⟩, hrest⟩
  · rintro ⟨t, rfl, ⟨ds, hds, hallows, hn⟩, hrest⟩
    exact ⟨ds, takeDigits_append hds hrest, hallows, hn⟩

/-- A number that is read is no greater than its numbering allows. -/
theorem SpellsNumber.le {f : Numbering} {t : List Char} {n : Nat} (h : SpellsNumber f t n) :
    n ≤ f.greatest := by
  obtain ⟨ds, -, hallows, rfl⟩ := h
  exact hallows.greatest

theorem noDigit_cons {radix : Nat} {c : Char} (hc : digit? radix c = none) (r : List Char) :
    NoDigit radix (c :: r) := by
  intro e he
  obtain rfl : c = e := by simpa using he
  exact hc

theorem noDigit_nil (radix : Nat) : NoDigit radix [] := by
  simp [NoDigit]

theorem after_eq_some_iff {m : Char} {cs r : List Char} : after m cs = some r ↔ cs = m :: r := by
  cases cs with
  | nil => simp [after]
  | cons c cs =>
      rw [after, List.cons.injEq]
      split <;> simp_all

/-! ### Dotted addresses -/

/-- A dotted address: four numbers with dots between them. -/
def SpellsDotted (t : List Char) (x : Ipv4) : Prop :=
  ∃ a b c d, t = joined '.' [a, b, c, d] ∧ SpellsNumber octet a x.a.toNat ∧
    SpellsNumber octet b x.b.toNat ∧ SpellsNumber octet c x.c.toNat ∧ SpellsNumber octet d x.d.toNat

theorem toNat_toUInt8 {n : Nat} (h : n ≤ 0xFF) : n.toUInt8.toNat = n := by
  simp
  omega

/-- **A dotted address is read** exactly where one is spelled and no digit goes on with it. -/
theorem ipv4_eq_some_iff {cs rest : List Char} {x : Ipv4} :
    ipv4 cs = some (x, rest) ↔ ∃ t, cs = t ++ rest ∧ SpellsDotted t x ∧ NoDigit 10 rest := by
  have hdot : ∀ r, NoDigit octet.radix ('.' :: r) := noDigit_cons (by decide)
  simp only [ipv4, Option.bind_eq_bind, Option.bind_eq_some_iff, Prod.exists, after_eq_some_iff,
    number_eq_some_iff]
  constructor
  · rintro ⟨a, _, ⟨ta, rfl, ha, -⟩, _, rfl, b, _, ⟨tb, rfl, hb, -⟩, _, rfl, c, _,
      ⟨tc, rfl, hc, -⟩, _, rfl, d, r, ⟨td, rfl, hd, hrest⟩, h⟩
    obtain ⟨rfl, rfl⟩ := Prod.mk.inj (Option.some.inj h)
    refine ⟨joined '.' [ta, tb, tc, td], by simp [joined], ⟨ta, tb, tc, td, rfl, ?_⟩, hrest⟩
    simp only [toNat_toUInt8 ha.le, toNat_toUInt8 hb.le, toNat_toUInt8 hc.le, toNat_toUInt8 hd.le]
    exact ⟨ha, hb, hc, hd⟩
  · rintro ⟨_, rfl, ⟨ta, tb, tc, td, rfl, ha, hb, hc, hd⟩, hrest⟩
    refine ⟨_, _, ⟨ta, by simp [joined], ha, hdot _⟩, _, rfl, _, _, ⟨tb, rfl, hb, hdot _⟩, _, rfl,
      _, _, ⟨tc, rfl, hc, hdot _⟩, _, rfl, _, rest, ⟨td, rfl, hd, hrest⟩, ?_⟩
    simp

/-! ### Colon addresses -/

/-- Groups with colons between them; whether the last two are dotted. -/
inductive SpellsGroups : List Char → List UInt16 → Bool → Prop where
  | one {t : List Char} {g : UInt16} (ht : SpellsNumber group t g.toNat) :
      SpellsGroups t [g] false
  | dotted {t : List Char} {x : Ipv4} (ht : SpellsDotted t x) : SpellsGroups t (pairOf x) true
  | more {t u : List Char} {g : UInt16} {gs : List UInt16} {isDotted : Bool}
      (ht : SpellsNumber group t g.toNat) (hu : SpellsGroups u gs isDotted) :
      SpellsGroups (t ++ ':' :: u) (g :: gs) isDotted

/-- Groups, or none. -/
def SpellsSide (t : List Char) (gs : List UInt16) (isDotted : Bool) : Prop :=
  t = [] ∧ gs = [] ∧ isDotted = false ∨ SpellsGroups t gs isDotted

/-- A colon address: eight groups, or fewer and a double colon for the groups left out, which are
zero. What stands before the double colon is not dotted. -/
inductive SpellsColon : List Char → Ipv6 → Prop where
  | whole {t : List Char} {gs : List UInt16} {isDotted : Bool} (ht : SpellsGroups t gs isDotted)
      (hlength : gs.length = 8) : SpellsColon t ⟨gs⟩
  | short {t u : List Char} {front back : List UInt16} {isDotted : Bool}
      (ht : SpellsSide t front false) (hu : SpellsSide u back isDotted)
      (hlength : front.length + back.length < 8) :
      SpellsColon (t ++ ':' :: ':' :: u)
        ⟨front ++ List.replicate (8 - front.length - back.length) 0 ++ back⟩

/-- What stands before groups that are not the first ones. -/
def lead (isFirst : Bool) : List Char :=
  if isFirst then [] else [':']

/-- Nothing comes next that goes on with groups. -/
structure Closes (rest : List Char) : Prop where
  digit : NoDigit 16 rest
  dot : ∀ r, rest ≠ '.' :: r
  colon : ∀ r, rest = ':' :: r → NoDigit 16 r

/-- One group is read, and then the others. -/
theorem groups_lead (room : Nat) (isFirst : Bool) (r : List Char) :
    groups (room + 1) isFirst (lead isFirst ++ r) =
      match if room = 0 then none else ipv4 r with
      | some (x, r) => (pairOf x, true, r)
      | none =>
        match number group r with
        | none => ([], false, lead isFirst ++ r)
        | some (g, r) =>
          (g.toUInt16 :: (groups room false r).1, (groups room false r).2) := by
  cases isFirst <;> rfl

/-- No group is read where none can begin. -/
theorem groups_of_not_lead {isFirst : Bool} {cs : List Char} (h : ∀ r, cs ≠ lead isFirst ++ r)
    (room : Nat) : groups room isFirst cs = ([], false, cs) := by
  cases room with
  | zero => rfl
  | succ room =>
      cases isFirst with
      | true => exact absurd rfl (h cs)
      | false =>
          have hafter : after ':' cs = none :=
            Option.eq_none_iff_forall_ne_some.mpr fun r hr => h r (after_eq_some_iff.mp hr)
          simp [groups, hafter]

theorem toNat_toUInt16 {n : Nat} (h : n ≤ 0xFFFF) : n.toUInt16.toNat = n := by
  simp
  omega

/-- **Groups that are read are spelled**; or none are. -/
theorem exists_of_groups {room : Nat} {isFirst isDotted : Bool} {cs rest : List Char}
    {gs : List UInt16} (h : groups room isFirst cs = (gs, isDotted, rest)) :
    gs.length ≤ room ∧
      (gs = [] ∧ isDotted = false ∧ rest = cs ∨
        ∃ t, cs = lead isFirst ++ (t ++ rest) ∧ SpellsGroups t gs isDotted) := by
  induction room generalizing isFirst isDotted cs rest gs with
  | zero =>
      obtain ⟨rfl, rfl, rfl⟩ := by simpa [groups] using h
      simp
  | succ room ih =>
      by_cases hlead : ∃ r, cs = lead isFirst ++ r
      · obtain ⟨r, rfl⟩ := hlead
        rw [groups_lead] at h
        split at h
        · -- a dotted address ends the groups
          rename_i x r' hdotted
          obtain ⟨hroom, hdotted⟩ := Option.ite_none_left_eq_some.mp hdotted
          obtain ⟨t, rfl, ht, -⟩ := ipv4_eq_some_iff.mp hdotted
          obtain ⟨rfl, rfl, rfl⟩ := by simpa using h
          exact ⟨by simp [pairOf]; omega, .inr ⟨t, rfl, .dotted ht⟩⟩
        · split at h
          · obtain ⟨rfl, rfl, rfl⟩ := by simpa using h
            exact ⟨Nat.zero_le _, .inl ⟨rfl, rfl, rfl⟩⟩
          · rename_i g r' hnumber
            obtain ⟨t, rfl, ht, -⟩ := number_eq_some_iff.mp hnumber
            obtain ⟨hs, hothers, rfl⟩ : ∃ hs, groups room false r' = (hs, isDotted, rest) ∧
                gs = g.toUInt16 :: hs := by
              obtain ⟨rfl, heq⟩ := Prod.mk.inj h
              exact ⟨_, by rw [← heq], rfl⟩
            have hg : SpellsNumber group t g.toUInt16.toNat := (toNat_toUInt16 ht.le).symm ▸ ht
            obtain ⟨hlength, hspelled⟩ := ih hothers
            refine ⟨Nat.succ_le_succ hlength, .inr ?_⟩
            rcases hspelled with ⟨rfl, rfl, rfl⟩ | ⟨u, rfl, hu⟩
            · exact ⟨t, rfl, .one hg⟩
            · exact ⟨t ++ ':' :: u, by simp [lead], .more hg hu⟩
      · have hnone := groups_of_not_lead (fun r hr => hlead ⟨r, hr⟩) (room + 1)
        obtain ⟨rfl, rfl, rfl⟩ := by simpa using hnone.symm.trans h
        exact ⟨Nat.zero_le _, .inl ⟨rfl, rfl, rfl⟩⟩

/-- The groups on one side of a double colon are spelled, if there are any. -/
theorem exists_side_of_groups {room : Nat} {isDotted : Bool} {cs rest : List Char}
    {gs : List UInt16} (h : groups room true cs = (gs, isDotted, rest)) :
    gs.length ≤ room ∧ ∃ t, cs = t ++ rest ∧ SpellsSide t gs isDotted := by
  obtain ⟨hlength, hspelled⟩ := exists_of_groups h
  refine ⟨hlength, ?_⟩
  rcases hspelled with ⟨rfl, rfl, rfl⟩ | ⟨t, rfl, ht⟩
  · exact ⟨[], rfl, .inl ⟨rfl, rfl, rfl⟩⟩
  · exact ⟨t, rfl, .inr ht⟩

/-- **A colon address that is read is spelled.** -/
theorem exists_of_ipv6 {cs rest : List Char} {x : Ipv6} (h : ipv6 cs = some (x, rest)) :
    ∃ t, cs = t ++ rest ∧ SpellsColon t x := by
  obtain ⟨front, isDotted, r, hfront⟩ :
      ∃ front isDotted r, groups 8 true cs = (front, isDotted, r) := ⟨_, _, _, rfl⟩
  obtain ⟨hlength, t, rfl, ht⟩ := exists_side_of_groups hfront
  simp only [ipv6, hfront] at h
  split at h
  · -- eight groups are a whole address
    rename_i hwhole
    obtain ⟨rfl, rfl⟩ := Prod.mk.inj (Option.some.inj h)
    rcases ht with ⟨-, rfl, -⟩ | ht
    · simp at hwhole
    · exact ⟨t, rfl, .whole ht hwhole⟩
  · rename_i hwhole
    split at h
    · simp at h
    · rename_i hdotted
      obtain rfl : isDotted = false := by simpa using hdotted
      simp only [Option.bind_eq_bind, Option.bind_eq_some_iff, after_eq_some_iff] at h
      obtain ⟨_, rfl, r', rfl, h⟩ := h
      obtain ⟨back, isDotted, r, hback⟩ :
          ∃ back isDotted r, groups (7 - front.length) true r' = (back, isDotted, r) :=
        ⟨_, _, _, rfl⟩
      obtain ⟨hroom, u, rfl, hu⟩ := exists_side_of_groups hback
      simp only [hback] at h
      obtain ⟨rfl, rfl⟩ := Prod.mk.inj (Option.some.inj h)
      exact ⟨t ++ ':' :: ':' :: u, by simp, .short ht hu (by omega)⟩

/-! ### What follows an address -/

/-- No number is read where there is no digit. -/
theorem number_eq_none {f : Numbering} {r : List Char} (h : NoDigit f.radix r) :
    number f r = none := by
  refine Option.eq_none_iff_forall_ne_some.mpr ?_
  rintro ⟨n, rest⟩ hn
  obtain ⟨t, rfl, ⟨ds, hds, hallows, -⟩, -⟩ := number_eq_some_iff.mp hn
  cases t with
  | nil => exact hallows.nonempty (by simpa using hds.symm)
  | cons c t =>
      have hc : digit? f.radix c = none := h c rfl
      cases ds with
      | nil => exact hallows.nonempty rfl
      | cons d ds => simp [hc] at hds

/-- A digit is one in every greater base. -/
theorem digit?_of_le {radix base d : Nat} (hle : radix ≤ base) {c : Char}
    (h : digit? radix c = some d) : digit? base c = some d := by
  rw [digit?, Option.filter_eq_some_iff] at h ⊢
  obtain ⟨hc, hd⟩ := h
  refine ⟨hc, ?_⟩
  simp only [decide_eq_true_eq] at hd ⊢
  omega

theorem map_digit?_of_le {radix base : Nat} (hle : radix ≤ base) {t : List Char} {ds : List Nat}
    (h : t.map (digit? radix) = ds.map some) : t.map (digit? base) = ds.map some := by
  induction t generalizing ds with
  | nil => exact h
  | cons c t ih =>
      cases ds with
      | nil => simp at h
      | cons d ds =>
          obtain ⟨hc, htail⟩ := List.cons.inj h
          rw [List.map_cons, digit?_of_le hle hc, ih htail, List.map_cons]

theorem NoDigit.of_le {radix base : Nat} (hle : radix ≤ base) {r : List Char}
    (h : NoDigit base r) : NoDigit radix r := by
  intro c hc
  refine Option.eq_none_iff_forall_ne_some.mpr fun d hd => ?_
  exact Option.some_ne_none d ((digit?_of_le hle hd).symm.trans (h c hc))

/-- No dotted address is read where a group is spelled and neither a digit nor a dot comes next. -/
theorem ipv4_eq_none {t rest : List Char} {ds : List Nat}
    (ht : t.map (digit? 16) = ds.map some) (hdigit : NoDigit 16 rest)
    (hdot : ∀ r, rest ≠ '.' :: r) : ipv4 (t ++ rest) = none := by
  refine Option.eq_none_iff_forall_ne_some.mpr ?_
  rintro ⟨x, r⟩ hx
  obtain ⟨_, heq, ⟨a, b, c, d, rfl, ⟨es, hes, -, -⟩, -⟩, -⟩ := ipv4_eq_some_iff.mp hx
  have hes : a.map (digit? 16) = es.map some := map_digit?_of_le (by decide) hes
  have hleft := takeDigits_append ht hdigit
  have hright : takeDigits 16 (a ++ '.' :: (joined '.' [b, c, d] ++ r)) =
      (es, '.' :: (joined '.' [b, c, d] ++ r)) :=
    takeDigits_append hes (noDigit_cons (by decide) _)
  have hsame : t ++ rest = a ++ '.' :: (joined '.' [b, c, d] ++ r) := by
    rw [heq]
    simp [joined]
  rw [hsame, hright] at hleft
  exact hdot _ (Prod.mk.inj hleft).2.symm

/-- No group is read where there is no digit. -/
theorem groups_eq_nil {isFirst : Bool} {cs : List Char}
    (h : ∀ r, cs = lead isFirst ++ r → NoDigit 16 r) (room : Nat) :
    groups room isFirst cs = ([], false, cs) := by
  by_cases hlead : ∃ r, cs = lead isFirst ++ r
  · obtain ⟨r, rfl⟩ := hlead
    have hr : NoDigit 16 r := h r rfl
    cases room with
    | zero => rfl
    | succ room =>
        have hdotted : ipv4 r = none := by
          rw [ipv4, number_eq_none (hr.of_le (by decide))]
          rfl
        rw [groups_lead, hdotted, number_eq_none (f := group) hr, ite_self]
  · exact groups_of_not_lead (fun r hr => hlead ⟨r, hr⟩) room

/-- A spelled group is read, if neither a digit nor a dot comes next. -/
theorem groups_group {t r : List Char} {g : UInt16} (ht : SpellsNumber group t g.toNat)
    (hdigit : NoDigit 16 r) (hdot : ∀ u, r ≠ '.' :: u) (room : Nat) (isFirst : Bool) :
    groups (room + 1) isFirst (lead isFirst ++ (t ++ r)) =
      (g :: (groups room false r).1, (groups room false r).2) := by
  have hnumber : number group (t ++ r) = some (g.toNat, r) :=
    number_eq_some_iff.mpr ⟨t, rfl, ht, hdigit⟩
  obtain ⟨ds, hds, -⟩ := ht
  rw [groups_lead, ipv4_eq_none hds hdigit hdot, ite_self, hnumber]
  simp

/-- **Spelled groups are read**, if there is room for them and nothing goes on with them. -/
theorem groups_append {t rest : List Char} {gs : List UInt16} {isDotted : Bool}
    (ht : SpellsGroups t gs isDotted) (hrest : Closes rest) {room : Nat}
    (hroom : gs.length ≤ room) (isFirst : Bool) :
    groups room isFirst (lead isFirst ++ (t ++ rest)) = (gs, isDotted, rest) := by
  induction ht generalizing room isFirst with
  | one ht =>
      cases room with
      | zero => simp at hroom
      | succ room =>
          have hnone : groups room false rest = ([], false, rest) :=
            groups_eq_nil (fun r hr => hrest.colon r hr) room
          rw [groups_group ht hrest.digit hrest.dot, hnone]
  | @dotted t x ht =>
      cases room with
      | zero => simp [pairOf] at hroom
      | succ room =>
          have hpos : room ≠ 0 := by
            rintro rfl
            simp [pairOf] at hroom
          have hdotted : ipv4 (t ++ rest) = some (x, rest) :=
            ipv4_eq_some_iff.mpr ⟨t, rfl, ht, hrest.digit.of_le (by decide)⟩
          rw [groups_lead, if_neg hpos, hdotted]
  | @more t u g gs isDotted ht _ ih =>
      cases room with
      | zero => simp at hroom
      | succ room =>
          have hothers := ih (Nat.le_of_succ_le_succ hroom) false
          have hcolon : NoDigit 16 (':' :: (u ++ rest)) := noDigit_cons (by decide) _
          rw [List.append_assoc, List.cons_append,
            groups_group ht hcolon (fun v hv => by simp at hv)]
          simp only [lead, Bool.false_eq_true, if_false, List.singleton_append] at hothers
          rw [hothers]

/-- The groups on one side of a double colon are read. -/
theorem groups_side {t rest : List Char} {gs : List UInt16} {isDotted : Bool}
    (ht : SpellsSide t gs isDotted) (hrest : Closes rest) {room : Nat} (hroom : gs.length ≤ room) :
    groups room true (t ++ rest) = (gs, isDotted, rest) := by
  rcases ht with ⟨rfl, rfl, rfl⟩ | ht
  · have hnone : ∀ r, rest = lead true ++ r → NoDigit 16 r := by
      rintro r rfl
      exact hrest.digit
    exact groups_eq_nil hnone room
  · exact groups_append ht hrest hroom true

/-- Nothing goes on with groups at a sign that is no digit, no dot and no colon. -/
theorem closes_cons {c : Char} (hdigit : digit? 16 c = none) (hdot : c ≠ '.') (hcolon : c ≠ ':')
    (r : List Char) : Closes (c :: r) where
  digit := noDigit_cons hdigit r
  dot := fun _ heq => hdot (List.cons.inj heq).1
  colon := fun _ heq => absurd (List.cons.inj heq).1 hcolon

/-- Nothing goes on with groups at a double colon. -/
theorem closes_doubleColon (r : List Char) : Closes (':' :: ':' :: r) where
  digit := noDigit_cons (by decide) _
  dot := by simp
  colon := by
    rintro _ heq
    obtain ⟨-, rfl⟩ := List.cons.inj heq
    exact noDigit_cons (by decide) _

/-- **A spelled colon address is read**, if nothing goes on with it. -/
theorem ipv6_append {t rest : List Char} {x : Ipv6} (ht : SpellsColon t x) (hrest : Closes rest) :
    ipv6 (t ++ rest) = some (x, rest) := by
  cases ht with
  | whole ht hlength =>
      have hgroups := groups_side (.inr ht) hrest (Nat.le_of_eq hlength)
      simp [ipv6, hgroups, hlength]
  | @short t u front back isDotted ht hu hlength =>
      have hfront : groups 8 true (t ++ ':' :: ':' :: (u ++ rest)) =
          (front, false, ':' :: ':' :: (u ++ rest)) :=
        groups_side ht (closes_doubleColon _) (by omega)
      have hback : groups (7 - front.length) true (u ++ rest) = (back, isDotted, rest) :=
        groups_side hu hrest (by omega)
      have hshort : front.length ≠ 8 := by omega
      simp [ipv6, hfront, hback, hshort, after]

end Address

/-! ### Addresses with a port -/

namespace SocketAddress

open Address

/-- A scope behind a percent sign, or none for the scope zero. -/
def SpellsScope (t : List Char) (scope : Nat) : Prop :=
  t = [] ∧ scope = 0 ∨ ∃ u, t = '%' :: u ∧ SpellsNumber Address.scope u scope

/-- An address with its port: a dotted one as it is, and a colon one in brackets, with its scope. -/
inductive Spells : List Char → SocketAddress → Prop where
  | dotted {t p : List Char} {ip : Ipv4} {n : UInt16} (ht : SpellsDotted t ip)
      (hp : SpellsNumber port p n.toNat) : Spells (t ++ ':' :: p) (v4 ip n)
  | colon {t u p : List Char} {ip : Ipv6} {s : UInt32} {n : UInt16} (ht : SpellsColon t ip)
      (hu : SpellsScope u s.toNat) (hp : SpellsNumber port p n.toNat) :
      Spells ('[' :: (t ++ (u ++ ']' :: ':' :: p))) (v6 ip s n)

theorem toNat_toUInt32 {n : Nat} (h : n ≤ 0xFFFFFFFF) : n.toUInt32.toNat = n := by
  simp
  omega

/-- A dotted address with a port is read exactly where one is spelled. -/
theorem readV4_eq_some_iff {cs : List Char} {x : SocketAddress} :
    readV4 cs = some (x, []) ↔
      ∃ t p ip n, cs = t ++ ':' :: p ∧ SpellsDotted t ip ∧ SpellsNumber port p n.toNat ∧
        x = v4 ip n := by
  simp only [readV4, Option.bind_eq_bind, Option.bind_eq_some_iff, Prod.exists, after_eq_some_iff,
    number_eq_some_iff, ipv4_eq_some_iff]
  constructor
  · rintro ⟨ip, _, ⟨t, rfl, ht, -⟩, _, rfl, n, _, ⟨p, rfl, hp, -⟩, h⟩
    obtain ⟨rfl, rfl⟩ := Prod.mk.inj (Option.some.inj h)
    exact ⟨t, p, ip, n.toUInt16, by simp, ht, (toNat_toUInt16 hp.le).symm ▸ hp, rfl⟩
  · rintro ⟨t, p, ip, n, rfl, ht, hp, rfl⟩
    exact ⟨ip, _, ⟨t, rfl, ht, noDigit_cons (by decide) _⟩, p, rfl, n.toNat, [],
      ⟨p, by simp, hp, noDigit_nil _⟩, by simp⟩

theorem SpellsScope.le {t : List Char} {n : Nat} (h : SpellsScope t n) : n ≤ 0xFFFFFFFF := by
  rcases h with ⟨-, rfl⟩ | ⟨u, -, hu⟩
  · exact Nat.zero_le _
  · exact hu.le

/-- A scope that is read is spelled. -/
theorem exists_of_readScope {cs r : List Char} {n : Nat} (h : readScope cs = (n, r)) :
    ∃ t, cs = t ++ r ∧ SpellsScope t n := by
  rw [readScope] at h
  cases hread : (after '%' cs).bind (number Address.scope) with
  | none =>
      rw [hread] at h
      obtain ⟨rfl, rfl⟩ := Prod.mk.inj h
      exact ⟨[], rfl, .inl ⟨rfl, rfl⟩⟩
  | some found =>
      rw [hread] at h
      obtain rfl : found = (n, r) := h
      obtain ⟨_, hafter, hnumber⟩ := Option.bind_eq_some_iff.mp hread
      obtain rfl := after_eq_some_iff.mp hafter
      obtain ⟨u, rfl, hu, -⟩ := number_eq_some_iff.mp hnumber
      exact ⟨'%' :: u, rfl, .inr ⟨u, rfl, hu⟩⟩

/-- A spelled scope is read up to the bracket. -/
theorem readScope_append {t : List Char} {n : Nat} (ht : SpellsScope t n) (r : List Char) :
    readScope (t ++ ']' :: r) = (n, ']' :: r) := by
  rcases ht with ⟨rfl, rfl⟩ | ⟨u, rfl, hu⟩
  · rfl
  · have hnumber : number Address.scope (u ++ ']' :: r) = some (n, ']' :: r) :=
      number_eq_some_iff.mpr ⟨u, rfl, hu, noDigit_cons (by decide) r⟩
    simp [readScope, after, hnumber]

/-- Nothing goes on with a colon address at its scope, or at the bracket. -/
theorem closes_scope {t : List Char} {n : Nat} (ht : SpellsScope t n) (r : List Char) :
    Closes (t ++ ']' :: r) := by
  rcases ht with ⟨rfl, -⟩ | ⟨u, rfl, -⟩
  · exact closes_cons (by decide) (by decide) (by decide) r
  · exact closes_cons (by decide) (by decide) (by decide) _

/-- A colon address in brackets with a port is read exactly where one is spelled. -/
theorem readV6_eq_some_iff {cs : List Char} {x : SocketAddress} :
    readV6 cs = some (x, []) ↔
      ∃ t u p ip s n, cs = '[' :: (t ++ (u ++ ']' :: ':' :: p)) ∧ SpellsColon t ip ∧
        SpellsScope u (UInt32.toNat s) ∧ SpellsNumber port p (UInt16.toNat n) ∧ x = v6 ip s n := by
  constructor
  · intro h
    simp only [readV6, Option.bind_eq_bind, Option.bind_eq_some_iff, Prod.exists,
      after_eq_some_iff, number_eq_some_iff] at h
    obtain ⟨_, rfl, ip, r, hip, _, hclose, _, rfl, n, _, ⟨p, rfl, hp, -⟩, h⟩ := h
    obtain ⟨rfl, rfl⟩ := Prod.mk.inj (Option.some.inj h)
    obtain ⟨t, rfl, ht⟩ := exists_of_ipv6 hip
    obtain ⟨s, hscope⟩ : ∃ s, readScope r = (s, ']' :: ':' :: (p ++ [])) := ⟨_, Prod.ext rfl hclose⟩
    obtain ⟨u, rfl, hu⟩ := exists_of_readScope hscope
    refine ⟨t, u, p, ip, _, _, by simp, ht, ?_, ?_, rfl⟩
    · rw [hscope]
      exact (toNat_toUInt32 hu.le).symm ▸ hu
    · exact (toNat_toUInt16 hp.le).symm ▸ hp
  · rintro ⟨t, u, p, ip, s, n, rfl, ht, hu, hp, rfl⟩
    have hip := ipv6_append ht (closes_scope hu (':' :: p))
    have hport : number port p = some (n.toNat, []) :=
      number_eq_some_iff.mpr ⟨p, by simp, hp, noDigit_nil _⟩
    simp [readV6, after, hip, readScope_append hu, hport]

/-- **A text is read exactly as the grammar says that it spells.** -/
theorem parse?_eq_some_iff {cs : List Char} {x : SocketAddress} :
    parse? cs = some x ↔ Spells cs x := by
  have hparse : parse? cs = some x ↔ (readV4 cs).or (readV6 cs) = some (x, []) := by
    rw [parse?]
    split
    · rename_i y hread
      rw [hread, Option.some.injEq, Option.some.injEq, Prod.mk.injEq, and_iff_left rfl]
    · rename_i hread
      exact iff_of_false (by simp) fun h => hread x h
  rw [hparse, Option.or_eq_some_iff, readV4_eq_some_iff, readV6_eq_some_iff]
  constructor
  · rintro (⟨t, p, ip, n, rfl, ht, hp, rfl⟩ | ⟨-, t, u, p, ip, s, n, rfl, ht, hu, hp, rfl⟩)
    · exact .dotted ht hp
    · exact .colon ht hu hp
  · intro h
    cases h with
    | dotted ht hp => exact .inl ⟨_, _, _, _, rfl, ht, hp, rfl⟩
    | colon ht hu hp =>
        refine .inr ⟨?_, _, _, _, _, _, _, rfl, ht, hu, hp, rfl⟩
        -- no dotted address starts with a bracket
        have hnone : ∀ r, number octet ('[' :: r) = none :=
          fun r => number_eq_none (noDigit_cons (by decide) r)
        simp [readV4, ipv4, hnone]

end SocketAddress

end Onboarding
