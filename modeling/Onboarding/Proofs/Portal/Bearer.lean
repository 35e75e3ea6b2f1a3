import Onboarding.Portal.Request
import Onboarding.Proofs.Text.Boundaries
import Onboarding.Proofs.Text.Trimming

/-!
# Tokens of authorization headers

A header names the scheme, in any case, and behind a space the credential; or it is the credential
itself. Which of the two it is shows when the blanks before it are gone: it is the first exactly if
what is left starts with the scheme and a space. The space belongs to what is looked for. So the
bare scheme is a credential like any other text, but not the bare scheme with a space behind it, and
this is the only header that reads differently when the blanks around it are gone.

The scheme is looked for in the first seven bytes, and the credential is what stands from there on
(`Bearer.sliced?`). The seventh byte may belong to a character that goes on; not so where the scheme
was found.

## Main results

* `Bearer.token?_of_scheme`, `Bearer.token?_of_other`: the token of either kind of header.
* `Bearer.sliced?_eq`: reading by bytes never cuts a character and gives the same token.
* `Bearer.token?_characterized`: what the token of any header is.
* `Bearer.token?_trimmed_iff`: which headers read the same without the blanks around them.
-/

namespace Onboarding

/-! ### Lower case -/

namespace Text

/-- Only the letters from A to Z have a lower case of their own. -/
theorem toLower_cases (c : Char) :
    c.toLower = c ∨ 0x41 ≤ c.toNat ∧ c.toNat ≤ 0x5A ∧ c.toLower.toNat = c.toNat + 0x20 := by
  by_cases h : c.val ≥ 'A'.val ∧ c.val ≤ 'Z'.val
  · have hrange : c.val.toNat ≥ 0x41 ∧ c.val.toNat ≤ 0x5A := h
    have hlower : c.toLower.val = c.val + 0x20 := congrArg Char.val (dif_pos h)
    refine .inr ⟨hrange.1, hrange.2, ?_⟩
    change c.toLower.val.toNat = c.val.toNat + 0x20
    rw [hlower, UInt32.toNat_add]
    change (c.val.toNat + 0x20) % 2 ^ 32 = _
    omega
  · exact .inl (dif_neg h)

/-- A blank is in no case. -/
theorem toLower_of_isBlank {c : Char} (h : isBlank c = true) : c.toLower = c := by
  refine (toLower_cases c).resolve_right fun ⟨hfirst, hlast, _⟩ => ?_
  simp only [isBlank, Bool.or_eq_true, Bool.and_eq_true, decide_eq_true_eq, beq_iff_eq] at h
  omega

/-- Nothing but a space is a space in lower case. -/
theorem eq_space_of_toLower {c : Char} (h : c.toLower = ' ') : c = ' ' := by
  rcases toLower_cases c with hsame | ⟨hfirst, -, hlower⟩
  · rw [← hsame, h]
  · have hspace : (' ' : Char).toNat = 0x20 := rfl
    rw [h] at hlower
    omega

end Text

namespace Bearer

open Text (AllBlank isBlank trim trimStart trimEnd)

/-! ### The scheme -/

/-- The scheme, in any case. -/
def IsScheme (b : List Char) : Prop :=
  b.map Char.toLower = "bearer".toList

instance : DecidablePred IsScheme :=
  fun b => inferInstanceAs (Decidable (b.map Char.toLower = "bearer".toList))

theorem scheme_eq : scheme = "bearer".toList ++ [' '] := by
  decide

namespace IsScheme

variable {b : List Char}

theorem length_eq (h : IsScheme b) : b.length = 6 := by
  simpa using congrArg List.length h

/-- No letter of the scheme is blank. -/
theorem not_blank (h : IsScheme b) {c : Char} (hc : c ∈ b) : isBlank c = false := by
  have hletters : ("bearer".toList.any isBlank) = false := by decide
  have hletter : c.toLower ∈ "bearer".toList := h ▸ List.mem_map_of_mem hc
  by_contra hblank
  rw [Text.toLower_of_isBlank (by simpa using hblank)] at hletter
  exact List.any_eq_false.mp hletters c hletter (by simpa using hblank)

/-- The scheme has no blank at either end. -/
theorem trimmed (h : IsScheme b) : Text.Trimmed b where
  head := fun _ hc => h.not_blank (List.mem_of_mem_head? hc)
  last := fun _ hc => h.not_blank (List.mem_of_mem_getLast? hc)

theorem not_allBlank (h : IsScheme b) : ¬AllBlank b := by
  rw [← Text.trim_eq_nil_iff, h.trimmed.trim_eq, ← List.length_eq_zero_iff, h.length_eq]
  decide

/-- The scheme is one byte a letter. -/
theorem ascii (h : IsScheme b) {c : Char} (hc : c ∈ b) : c.toNat < 0x80 := by
  have hletters : ("bearer".toList.all fun d => d.toNat < 0x80) = true := by decide
  have hletter : c.toLower ∈ "bearer".toList := h ▸ List.mem_map_of_mem hc
  rcases Text.toLower_cases c with hsame | ⟨-, hlast, -⟩
  · rw [hsame] at hletter
    exact of_decide_eq_true (List.all_eq_true.mp hletters c hletter)
  · omega

/-- The scheme and the space behind it take seven bytes. -/
theorem length_encode (h : IsScheme b) :
    (Utf8.encode (String.ofList (b ++ [' ']))).length = 7 := by
  have hascii : ∀ c ∈ b ++ [' '], c.toNat < 0x80 := by
    intro c hc
    rcases List.mem_append.mp hc with hc | hc
    · exact h.ascii hc
    · rw [List.mem_singleton.mp hc]
      decide
  rw [Utf8.encode_ofList, Utf8.length_bytes_of_ascii hascii, List.length_append, h.length_eq]
  rfl

/-- Nothing is trimmed of the scheme at the start of a text. -/
theorem trimStart_append (h : IsScheme b) (r : List Char) : trimStart (b ++ r) = b ++ r := by
  rw [Text.trimStart_append_of_not_blank h.not_allBlank, Text.trimStart_eq_self h.trimmed.head]

end IsScheme

/-- A text that starts with the scheme and a space. -/
def Presents (cs : List Char) : Prop :=
  ∃ b r, IsScheme b ∧ cs = b ++ ' ' :: r

/-- The scheme is found exactly where a text starts with it and a space. -/
theorem presents_iff {cs : List Char} :
    Presents cs ↔ (cs.take scheme.length).map Char.toLower = scheme := by
  constructor
  · rintro ⟨b, r, hb, rfl⟩
    have htake : (b ++ ' ' :: r).take scheme.length = b ++ [' '] := by
      rw [List.append_cons]
      exact List.take_left' (by simp [hb.length_eq, scheme_eq])
    rw [htake, List.map_append, show b.map Char.toLower = _ from hb, scheme_eq]
    rfl
  · intro h
    rw [scheme_eq] at h
    obtain ⟨b, s, htake, hb, hs⟩ := List.map_eq_append_iff.mp h
    obtain ⟨c, rfl, hc⟩ : ∃ c, s = [c] ∧ c.toLower = ' ' := by
      simpa [List.map_eq_cons_iff] using hs
    obtain rfl := Text.eq_space_of_toLower hc
    refine ⟨b, cs.drop scheme.length, hb, ?_⟩
    rw [List.append_cons, ← htake, scheme_eq, List.take_append_drop]

/-! ### The token of a header -/

/-- A text without the blanks around it, if there is anything else in it. -/
def kept (cs : List Char) : Option String :=
  if AllBlank cs then none else some (String.ofList (trim cs))

/-- Blanks around a text make no difference to what is kept of it. -/
theorem kept_surrounded {w v : List Char} (hw : AllBlank w) (hv : AllBlank v) (cs : List Char) :
    kept (w ++ cs ++ v) = kept cs := by
  simp only [kept, ← Text.trim_eq_nil_iff, Text.trim_surrounded hw hv]

theorem kept_trim (cs : List Char) : kept (trim cs) = kept cs := by
  simp only [kept, ← Text.trim_eq_nil_iff, Text.trim_trim]

theorem kept_trimStart (cs : List Char) : kept (trimStart cs) = kept cs := by
  obtain ⟨w, hw, heq⟩ := Text.exists_trimStart cs
  have hkept := kept_surrounded hw (v := []) (by simp [AllBlank]) (trimStart cs)
  rwa [List.append_nil, ← heq, eq_comm] at hkept

theorem kept_trimEnd (cs : List Char) : kept (trimEnd cs) = kept cs := by
  obtain ⟨v, hv, heq⟩ := Text.exists_trimEnd cs
  have hkept := kept_surrounded (w := []) (by simp [AllBlank]) hv (trimEnd cs)
  rwa [List.nil_append, ← heq, eq_comm] at hkept

/-- What is kept has something in it, and no blank at either end. -/
theorem trimmed_of_kept {cs : List Char} {t : String} (h : kept cs = some t) :
    t ≠ "" ∧ Text.Trimmed t.toList := by
  rw [kept] at h
  split at h
  · simp at h
  · rename_i hblank
    obtain rfl := Option.some.inj h
    rw [String.toList_ofList]
    refine ⟨fun hempty => hblank (Text.trim_eq_nil_iff.mp ?_), Text.trimmed_trim cs⟩
    simpa using congrArg String.toList hempty

theorem token?_eq_kept (header : String) :
    token? header = kept (credentialPart header.toList) := by
  rw [token?, kept]
  split
  · rename_i hnil
    rw [if_pos (Text.trim_eq_nil_iff.mp hnil)]
  · rename_i hne
    rw [if_neg fun hblank => hne (Text.trim_eq_nil_iff.mpr hblank)]

/-- **Behind the scheme and a space stands the token**, whatever blanks are before the scheme. -/
theorem token?_of_scheme {header : String} {b r : List Char} (hb : IsScheme b)
    (h : trimStart header.toList = b ++ ' ' :: r) : token? header = kept r := by
  have hdrop : (b ++ ' ' :: r).drop scheme.length = r := by
    rw [List.append_cons]
    exact List.drop_left' (by simp [hb.length_eq, scheme_eq])
  rw [token?_eq_kept, credentialPart, h]
  simp only [presents_iff.mp ⟨b, r, hb, rfl⟩, if_true, hdrop]

/-- **Any other header is the token itself.** -/
theorem token?_of_other {header : String} (h : ¬Presents (trimStart header.toList)) :
    token? header = kept header.toList := by
  rw [presents_iff] at h
  rw [token?_eq_kept, credentialPart]
  simp only [h, if_false, kept_trimStart]

/-! ### Reading by bytes -/

/-- A text with something in it. -/
def nonempty? (cs : List Char) : Option String :=
  if cs.isEmpty then none else some (String.ofList cs)

/-- The token as it is found by bytes: the scheme in the first seven, and the credential from the
seventh on. There is no result where a cut that has to be made would fall inside a character. -/
def sliced? (header : String) : Option (Option String) :=
  let value := String.ofList (trimStart header.toList)
  let token :=
    match Utf8.upTo? 7 value with
    | some start =>
      if start.toList.map Char.toLower = scheme then
        (Utf8.fromByte? 7 value).map fun (r : String) => trim r.toList
      else some (trimEnd value.toList)
    | none => some (trimEnd value.toList)
  token.map nonempty?

theorem nonempty?_trim (cs : List Char) : nonempty? (trim cs) = kept cs := by
  simp only [nonempty?, kept, List.isEmpty_iff, Text.trim_eq_nil_iff]

/-- **Reading by bytes never cuts a character**, and gives the token. -/
theorem sliced?_eq (header : String) : sliced? header = some (token? header) := by
  by_cases h : Presents (trimStart header.toList)
  · obtain ⟨b, r, hb, heq⟩ := h
    have hvalue : String.ofList (b ++ ' ' :: r) =
        String.ofList (b ++ [' ']) ++ String.ofList r := by
      rw [List.append_cons, String.ofList_append]
    have hstart : Utf8.upTo? 7 (String.ofList (b ++ [' ']) ++ String.ofList r) =
        some (String.ofList (b ++ [' '])) :=
      Utf8.upTo?_eq_some_iff.mpr ⟨_, rfl, hb.length_encode⟩
    have hrest : Utf8.fromByte? 7 (String.ofList (b ++ [' ']) ++ String.ofList r) =
        some (String.ofList r) :=
      hb.length_encode ▸ Utf8.fromByte?_append _ _
    have hfound : (b ++ [' ']).map Char.toLower = scheme := by
      rw [List.map_append, show b.map Char.toLower = _ from hb, scheme_eq]
      rfl
    rw [token?_of_scheme hb heq, sliced?, heq, hvalue]
    simp only [hstart, hrest, String.toList_ofList, hfound, if_true, Option.map_some,
      nonempty?_trim]
  · have hwhole : (some (trimEnd (trimStart header.toList))).map nonempty? =
        some (token? header) := by
      rw [Option.map_some, token?_of_other h, ← nonempty?_trim, trim]
    rw [sliced?]
    simp only [String.toList_ofList]
    split
    · rename_i start hstart
      obtain ⟨r, hr, -⟩ := Utf8.upTo?_eq_some_iff.mp hstart
      rw [if_neg, hwhole]
      intro hfound
      have hlength : start.toList.length = scheme.length := by
        simpa using congrArg List.length hfound
      refine h (presents_iff.mpr ?_)
      have hlist : trimStart header.toList = start.toList ++ r.toList := by
        rw [← String.toList_append, ← hr, String.toList_ofList]
      rw [hlist, ← hlength, List.take_left, hfound]
    · exact hwhole

/-- **The token of any header.** It is found without cutting a character; it is not empty and has no
blank at either end; behind blanks, the scheme in any case and a space it is what follows, without
the blanks around it, and none if there is nothing else; and of a header that does not start so it
is the whole header, likewise. -/
theorem token?_characterized (header : String) :
    sliced? header = some (token? header) ∧
    (∀ t, token? header = some t → t ≠ "" ∧ Text.Trimmed t.toList) ∧
    (∀ w b r : String, AllBlank w.toList → IsScheme b.toList → header = w ++ b ++ " " ++ r →
      token? header = kept r.toList) ∧
    (¬Presents (trimStart header.toList) → token? header = kept header.toList) := by
  refine ⟨sliced?_eq header, fun t ht => ?_, ?_, token?_of_other⟩
  · rw [token?_eq_kept] at ht
    exact trimmed_of_kept ht
  · rintro w b r hw hb rfl
    refine token?_of_scheme hb ?_
    have hlist : (w ++ b ++ " " ++ r).toList = w.toList ++ (b.toList ++ ' ' :: r.toList) := by
      simp
    rw [hlist, Text.trimStart_append hw, hb.trimStart_append]

/-- The seventh byte of the first header is inside a character; the second has a wide blank before
the scheme. -/
theorem token?_characterized_of_accents :
    sliced? "éééé" = some (token? "éééé") ∧ token? "éééé" = some "éééé" ∧
      token? "\u3000BeArEr  café " = some "café" ∧ Text.Trimmed "café".toList := by
  have hother : ¬Presents (trimStart "éééé".toList) := by
    rw [presents_iff]
    decide +kernel
  have hplain : token? "éééé" = some "éééé" := by
    rw [(token?_characterized "éééé").2.2.2 hother]
    decide +kernel
  have hscheme : token? "\u3000BeArEr  café " = some "café" := by
    rw [(token?_characterized _).2.2.1 "\u3000" "BeArEr" " café " (by decide +kernel)
      (by decide +kernel) (by decide +kernel)]
    decide +kernel
  exact ⟨(token?_characterized "éééé").1, hplain, hscheme,
    ((token?_characterized _).2.1 "café" hscheme).2⟩

/-! ### Blanks around a header -/

/-- A header without the blanks around it. -/
def trimmed (header : String) : String :=
  String.ofList (trim header.toList)

/-- A header of the scheme with a space behind it, and of blanks. -/
def NamesOnly (header b : String) : Prop :=
  IsScheme b.toList ∧
    ∃ w v : String, AllBlank w.toList ∧ AllBlank v.toList ∧ header = w ++ b ++ " " ++ v

/-- Such a header has no token, and without the blanks around it the scheme is its token. -/
theorem NamesOnly.tokens {header b : String} (h : NamesOnly header b) :
    token? header = none ∧ token? (trimmed header) = some b := by
  obtain ⟨hb, w, v, hw, hv, rfl⟩ := h
  have hlist : (w ++ b ++ " " ++ v).toList = w.toList ++ b.toList ++ ' ' :: v.toList := by simp
  have hbehind : AllBlank (' ' :: v.toList) := List.forall_mem_cons.mpr ⟨by decide, hv⟩
  constructor
  · have hstart : trimStart (w ++ b ++ " " ++ v).toList = b.toList ++ ' ' :: v.toList := by
      rw [hlist, List.append_assoc, Text.trimStart_append hw, hb.trimStart_append]
    rw [token?_of_scheme hb hstart, kept, if_pos hv]
  · have htrim : trim (w ++ b ++ " " ++ v).toList = b.toList := by
      rw [hlist, Text.trim_surrounded hw hbehind, hb.trimmed.trim_eq]
    -- six letters are too short for the scheme and a space
    have hother : ¬Presents (trimStart b.toList) := by
      rintro ⟨b', r, hb', heq⟩
      have hlength := congrArg List.length heq
      rw [Text.trimStart_eq_self hb.trimmed.head, hb.length_eq, List.length_append,
        hb'.length_eq, List.length_cons] at hlength
      omega
    rw [trimmed, htrim, String.ofList_toList, token?_of_other hother, kept,
      if_neg hb.not_allBlank, hb.trimmed.trim_eq, String.ofList_toList]

/-- Any other header has the same token without the blanks around it. -/
theorem token?_trimmed_of_other {header : String} (h : ¬∃ b, NamesOnly header b) :
    token? (trimmed header) = token? header := by
  by_cases hpresents : Presents (trimStart header.toList)
  · obtain ⟨b, r, hb, heq⟩ := hpresents
    obtain ⟨w, hw, hheader⟩ := Text.exists_trimStart header.toList
    have hr : ¬AllBlank r := by
      intro hr
      refine h ⟨String.ofList b, by rwa [String.toList_ofList], String.ofList w, String.ofList r,
        by rwa [String.toList_ofList], by rwa [String.toList_ofList], ?_⟩
      rw [← String.toList_inj, hheader, heq]
      simp
    have htrim : trim header.toList = b ++ ' ' :: trimEnd r := by
      rw [trim, heq, List.append_cons, Text.trimEnd_append_of_not_blank hr,
        ← List.append_cons]
    have hstart : trimStart (trimmed header).toList = b ++ ' ' :: trimEnd r := by
      rw [trimmed, String.toList_ofList, htrim, hb.trimStart_append]
    rw [token?_of_scheme hb hstart, token?_of_scheme hb heq, kept_trimEnd]
  · have hother : ¬Presents (trimStart (trimmed header).toList) := by
      rintro ⟨b, r, hb, heq⟩
      obtain ⟨v, -, hv⟩ := Text.exists_trimEnd (trimStart header.toList)
      rw [trimmed, String.toList_ofList,
        Text.trimStart_eq_self (Text.trimmed_trim header.toList).head, trim] at heq
      exact hpresents ⟨b, r ++ v, hb, by rw [hv, heq, List.append_assoc, List.cons_append]⟩
    rw [token?_of_other hother, token?_of_other hpresents, trimmed, String.toList_ofList, kept_trim]

/-- **A header reads the same without the blanks around it**, unless it is the scheme with a space
behind it, and blanks. Such a header has no token, but without the blanks the scheme is its
token. -/
theorem token?_trimmed_iff (header : String) :
    (token? (trimmed header) = token? header ↔ ¬∃ b, NamesOnly header b) ∧
      ∀ b, NamesOnly header b → token? header = none ∧ token? (trimmed header) = some b := by
  refine ⟨⟨?_, token?_trimmed_of_other⟩, fun b hb => hb.tokens⟩
  rintro hsame ⟨b, hb⟩
  obtain ⟨hnone, hsome⟩ := hb.tokens
  rw [hnone, hsome] at hsame
  simp at hsame

/-- The scheme and a space. -/
theorem token?_trimmed_iff_of_scheme :
    NamesOnly "Bearer " "Bearer" ∧ token? "Bearer " = none ∧ trimmed "Bearer " = "Bearer" ∧
      token? (trimmed "Bearer ") = some "Bearer" := by
  have hnames : NamesOnly "Bearer " "Bearer" :=
    ⟨by decide +kernel, "", "", by decide +kernel, by decide +kernel, by decide +kernel⟩
  obtain ⟨hnone, hsome⟩ := (token?_trimmed_iff "Bearer ").2 "Bearer" hnames
  exact ⟨hnames, hnone, by decide +kernel, hsome⟩

end Bearer

end Onboarding
