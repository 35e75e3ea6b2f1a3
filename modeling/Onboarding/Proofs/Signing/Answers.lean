import Onboarding.Proofs.Signing.Structures

/-!
# What a signing answer comes to

An answer with a status of success is a structure of two certificates, each a structure with a
content. The certificates are taken from it if it spells them and neither is empty; everything else
that comes with such a status is an invalid answer, and any other status is an error of its own,
whatever comes with it.

In an object that spells an answer the members stand in any order, names and contents are spelled
with any escapes, and there may be any members with other names. A known member that is missing or
comes twice spoils the answer, at either level.

## Main results

* `SignResponse.reads_readText`, `SignResponse.reads_readContent`: the parts of an answer are read as
  what spells them.
* `SignResponse.read?_eq_some_iff`: an answer is read as what it spells.
* `SignResponse.parse_characterized`: what comes of every status with every body.
-/

namespace Onboarding.SignResponse

open Json

/-! ### Parts of an answer -/

/-- A text is spelled as a name is. -/
theorem reads_readText : Reads readText SpellsName where
  reads := by
    rintro t s rest ⟨before, inner, after, hbefore, hafter, rfl, hinner⟩ -
    have hread : JsonText.read (inner ++ 0x22 :: (after ++ rest)) = some (s, after ++ rest) :=
      JsonText.read_eq_some_iff.mpr ⟨inner, rfl, hinner⟩
    have hquote : skipBlank (before ++ 0x22 :: (inner ++ 0x22 :: (after ++ rest))) =
        0x22 :: (inner ++ 0x22 :: (after ++ rest)) := skipBlank_blanks hbefore _
    exact ⟨after ++ rest, by simp [readText, hquote, hread], skipBlank_blanks hafter rest⟩
  spells := by
    intro bs s rest h
    rw [readText] at h
    split at h
    · rename_i r hquote
      obtain ⟨inner, rfl, hinner⟩ := JsonText.read_eq_some_iff.mp h
      obtain ⟨before, hbefore, rfl⟩ := exists_blanks_of_skipBlank hquote
      exact ⟨before ++ 0x22 :: (inner ++ [0x22]), by simp, before, inner, [], hbefore, .nil,
        by simp, hinner⟩
    · simp at h
  wellFormed := by
    rintro t s ⟨before, inner, after, hbefore, hafter, rfl, hinner⟩
    have := WellFormed.blank hbefore hafter (.text (.of_spells hinner))
    simpa using this
  blanksAfter := by
    rintro ws t s hws ⟨before, inner, after, hbefore, hafter, rfl, hinner⟩
    exact ⟨before, inner, after ++ ws, hbefore, hafter.append hws, by simp, hinner⟩

/-- What spells a certificate: a structure whose only member is its content. -/
def SpellsContent (t : Bytes) (content : String) : Prop :=
  SpellsStructure ["content"] SpellsName t [content]

theorem reads_readContent : Reads readContent SpellsContent where
  reads := by
    intro t content rest ht hrest
    obtain ⟨r, hread, hr⟩ := (reads_structure (by simp) reads_readText).reads ht hrest
    exact ⟨r, by simp [readContent, hread], hr⟩
  spells := by
    intro bs content rest h
    rw [readContent] at h
    split at h
    · rename_i content' r hread
      obtain ⟨rfl, rfl⟩ := Prod.mk.inj (Option.some.inj h)
      exact (reads_structure (by simp) reads_readText).spells hread
    · simp at h
  wellFormed := (reads_structure (by simp) reads_readText).wellFormed
  blanksAfter := (reads_structure (by simp) reads_readText).blanksAfter

/-- What spells an answer. -/
def SpellsAnswer (body : Bytes) (c : Certificates) : Prop :=
  SpellsStructure ["certificate", "ca_certificate"] SpellsContent body [c.device, c.authority]

/-- **An answer is read as what it spells.** -/
theorem read?_eq_some_iff {body : Bytes} {c : Certificates} :
    read? body = some c ↔ SpellsAnswer body c := by
  have hreads : Reads (readStructure ["certificate", "ca_certificate"] readContent)
      (SpellsStructure ["certificate", "ca_certificate"] SpellsContent) :=
    reads_structure (by simp) reads_readContent
  constructor
  · intro h
    rw [read?] at h
    split at h
    · rename_i device authority r hread
      split_ifs at h with hend
      obtain rfl := Option.some.inj h
      obtain ⟨t, rfl, ht⟩ := hreads.spells hread
      obtain ⟨ws, hws, rfl⟩ := exists_blanks_of_skipBlank (List.isEmpty_iff.mp hend)
      rw [List.append_nil]
      exact hreads.blanksAfter hws ht
    · simp at h
  · intro h
    have hends : Lexeme.Ends [] := by simp [Lexeme.Ends]
    obtain ⟨r, hread, hr⟩ := hreads.reads h hends
    have hend : skipBlank r = [] := hr
    rw [List.append_nil] at hread
    simp [read?, hread, hend]

/-! ### Answers as objects -/

/-- An object that has its content exactly once. -/
def HasContent (t : Bytes) (content : String) : Prop :=
  ∃ fields, FieldsOf t fields ∧ Holds SpellsName fields "content" content

theorem HasContent.spells {t : Bytes} {content : String} (h : HasContent t content) :
    SpellsContent t content := by
  obtain ⟨fields, ht, hcontent⟩ := h
  exact .inl ⟨fields, ht, .cons hcontent .nil⟩

/-- A certificate that is an object has its content exactly once. -/
theorem SpellsContent.length_namesakes {t : Bytes} {content : String} (h : SpellsContent t content)
    {fields : List Field} (ht : FieldsOf t fields) : (namesakes "content" fields).length = 1 := by
  obtain ⟨_, f, hf, -⟩ := exists_holds (h.holds ht) (List.mem_singleton_self "content")
  simp [hf]

section Objects

variable {body : Bytes} {fields : List Field}

theorem spellsAnswer_of_holds (ht : FieldsOf body fields) {device authority : String}
    (hdevice : Holds HasContent fields "certificate" device)
    (hauthority : Holds HasContent fields "ca_certificate" authority) :
    SpellsAnswer body ⟨device, authority⟩ := by
  obtain ⟨f, hf, hcontent⟩ := hdevice
  obtain ⟨g, hg, hcontent'⟩ := hauthority
  exact .inl ⟨fields, ht, .cons ⟨f, hf, hcontent.spells⟩ (.cons ⟨g, hg, hcontent'.spells⟩ .nil)⟩

/-- An answer that is an object has each certificate exactly once. -/
theorem SpellsAnswer.exists_holds {c : Certificates} (h : SpellsAnswer body c)
    (ht : FieldsOf body fields) {name : String} (hname : name ∈ ["certificate", "ca_certificate"]) :
    ∃ content, Holds SpellsContent fields name content :=
  SignResponse.exists_holds (SpellsStructure.holds h ht) hname

theorem read?_of_namesakes (ht : FieldsOf body fields) {name : String}
    (hname : name ∈ ["certificate", "ca_certificate"])
    (hlength : (namesakes name fields).length ≠ 1) : read? body = none := by
  refine Option.eq_none_iff_forall_ne_some.mpr fun c hc => hlength ?_
  obtain ⟨_, f, hf, -⟩ := (read?_eq_some_iff.mp hc).exists_holds ht hname
  simp [hf]

theorem read?_of_content (ht : FieldsOf body fields) {name : String}
    (hname : name ∈ ["certificate", "ca_certificate"]) {f : Field} (hf : f ∈ namesakes name fields)
    {inner : List Field} (hinner : FieldsOf f.text inner)
    (hlength : (namesakes "content" inner).length ≠ 1) : read? body = none := by
  refine Option.eq_none_iff_forall_ne_some.mpr fun c hc => hlength ?_
  obtain ⟨_, g, hg, hcontent⟩ := (read?_eq_some_iff.mp hc).exists_holds ht hname
  obtain rfl : f = g := by simpa [hg] using hf
  exact hcontent.length_namesakes hinner

end Objects

/-! ### Answers with their status -/

section Success

variable {status : Nat} {body : Bytes}

theorem parse_of_none (h : status = 200 ∨ status = 201) (hread : read? body = none) :
    parse status body = .error .malformed := by
  rw [parse, if_neg (by omega), hread]

theorem parse_of_some (h : status = 200 ∨ status = 201) {c : Certificates}
    (hread : read? body = some c) : parse status body =
      if c.device = "" ∨ c.authority = "" then .error .emptyCertificate else .ok c := by
  rw [parse, if_neg (by omega), hread]
  simp only [String.isEmpty_iff]

theorem parse_eq_ok_iff (h : status = 200 ∨ status = 201) (c : Certificates) :
    parse status body = .ok c ↔ SpellsAnswer body c ∧ c.device ≠ "" ∧ c.authority ≠ "" := by
  rw [← read?_eq_some_iff]
  cases hread : read? body with
  | none => simp [parse_of_none h hread]
  | some c' =>
      rw [parse_of_some h hread]
      split_ifs with hempty
      · simp only [Option.some.injEq, false_iff]
        rintro ⟨rfl, hdevice, hauthority⟩
        exact hempty.elim hdevice hauthority
      · simp only [Except.ok.injEq, Option.some.injEq]
        refine ⟨?_, fun hc => hc.1⟩
        rintro rfl
        exact ⟨rfl, not_or.mp hempty⟩

/-- An answer that spells no certificates and one that spells an empty one are told apart. -/
theorem fault_cases (h : status = 200 ∨ status = 201) {fault : SignFault}
    (hfault : parse status body = .error fault) :
    (fault = .malformed ∧ ∀ c, ¬SpellsAnswer body c) ∨
      (fault = .emptyCertificate ∧
        ∃ c, SpellsAnswer body c ∧ (c.device = "" ∨ c.authority = "")) := by
  cases hread : read? body with
  | none =>
      rw [parse_of_none h hread] at hfault
      refine .inl ⟨(Except.error.inj hfault).symm, fun c hc => ?_⟩
      rw [read?_eq_some_iff.mpr hc] at hread
      simp at hread
  | some c =>
      rw [parse_of_some h hread] at hfault
      split_ifs at hfault with hempty
      exact .inr ⟨(Except.error.inj hfault).symm, c, read?_eq_some_iff.mp hread, hempty⟩

end Success

/-- **What comes of an answer.** A status that is no success is the error, whatever comes with it.
With a success, the certificates are what the answer spells, if neither is empty, and everything
else is an invalid answer. So an object that has each certificate once, with its content once, comes
to these contents, and one that lacks or repeats a known member is malformed, whatever else it
has. -/
theorem parse_characterized (status : Nat) (body : Bytes) :
    (status ≠ 200 ∧ status ≠ 201 → parse status body = .error (.status status)) ∧
    (status = 200 ∨ status = 201 →
      (∀ c, parse status body = .ok c ↔ SpellsAnswer body c ∧ c.device ≠ "" ∧ c.authority ≠ "") ∧
      (∀ fault, parse status body = .error fault →
        ((fault = .malformed ∧ ∀ c, ¬SpellsAnswer body c) ∨
          (fault = .emptyCertificate ∧
            ∃ c, SpellsAnswer body c ∧ (c.device = "" ∨ c.authority = ""))) ∧
        ∃ why, fault.peerError = .invalidResponse why) ∧
      ∀ fields, FieldsOf body fields →
        (∀ device authority, Holds HasContent fields "certificate" device →
          Holds HasContent fields "ca_certificate" authority → device ≠ "" → authority ≠ "" →
          parse status body = .ok ⟨device, authority⟩) ∧
        (∀ name ∈ ["certificate", "ca_certificate"], (namesakes name fields).length ≠ 1 →
          parse status body = .error .malformed) ∧
        (∀ name ∈ ["certificate", "ca_certificate"], ∀ f ∈ namesakes name fields, ∀ inner,
          FieldsOf f.text inner → (namesakes "content" inner).length ≠ 1 →
          parse status body = .error .malformed)) := by
  refine ⟨fun hstatus => by rw [parse, if_pos hstatus], fun hstatus =>
    ⟨parse_eq_ok_iff hstatus, fun fault hfault => ?_, fun fields hfields => ⟨?_, ?_, ?_⟩⟩⟩
  · have hcases := fault_cases hstatus hfault
    refine ⟨hcases, ?_⟩
    rcases hcases with ⟨rfl, -⟩ | ⟨rfl, -⟩
    · exact ⟨_, rfl⟩
    · exact ⟨_, rfl⟩
  · intro device authority hdevice hauthority hne hne'
    exact (parse_eq_ok_iff hstatus _).mpr
      ⟨spellsAnswer_of_holds hfields hdevice hauthority, hne, hne'⟩
  · intro name hname hlength
    exact parse_of_none hstatus (read?_of_namesakes hfields hname hlength)
  · intro name hname f hf inner hinner hlength
    exact parse_of_none hstatus (read?_of_content hfields hname hf hinner hlength)

/-- Members in another order, names and contents with escapes, and members that nobody knows with
values that have no meaning are read; a certificate that is missing or comes twice, and a content
that comes twice, are not. -/
theorem parse_characterized_of_unknown_members :
    let other : Field := ⟨Utf8.encode "\"x\"", "x", Utf8.encode "[[1e999, \"\\ud800\"]]"⟩
    let content : Field :=
      ⟨Utf8.encode " \"cont\\u0065nt\"", "content", Utf8.encode " \"\\u00e9\\n\""⟩
    let content' : Field := ⟨Utf8.encode "\"content\"", "content", Utf8.encode "\"CA\""⟩
    let device : Field :=
      ⟨Utf8.encode "\"certificate\"", "certificate", braced [other, content]⟩
    let authority : Field :=
      ⟨Utf8.encode "\"ca_certificate\" ", "ca_certificate", braced [content', other]⟩
    let repeated : Field :=
      ⟨Utf8.encode "\"certificate\"", "certificate", braced [content, content']⟩
    parse 201 (braced [other, authority, other, device]) = .ok ⟨"é\n", "CA"⟩ ∧
      parse 200 (braced [other, device]) = .error .malformed ∧
      parse 200 (braced [device, authority, device]) = .error .malformed ∧
      parse 200 (braced [repeated, authority]) = .error .malformed ∧
      parse 403 (braced [device, authority]) = .error (.status 403) := by
  intro other content content' device authority repeated
  have hread : FieldsOf (braced [other, authority, other, device])
      [other, authority, other, device] := fieldsOf_braced (by simp) (by decide +kernel)
  have hmissing : FieldsOf (braced [other, device]) [other, device] :=
    fieldsOf_braced (by simp) (by decide +kernel)
  have htwice : FieldsOf (braced [device, authority, device]) [device, authority, device] :=
    fieldsOf_braced (by simp) (by decide +kernel)
  have hrepeated : FieldsOf (braced [repeated, authority]) [repeated, authority] :=
    fieldsOf_braced (by simp) (by decide +kernel)
  have hinner : FieldsOf repeated.text [content, content'] :=
    fieldsOf_braced (by simp) (by decide +kernel)
  have hdevice : HasContent device.text "é\n" :=
    ⟨[other, content], fieldsOf_braced (by simp) (by decide +kernel), content, by decide +kernel,
      by decide +kernel⟩
  have hauthority : HasContent authority.text "CA" :=
    ⟨[content', other], fieldsOf_braced (by simp) (by decide +kernel), content', by decide +kernel,
      by decide +kernel⟩
  refine ⟨?_, ?_, ?_, ?_, ?_⟩
  · exact (((parse_characterized 201 _).2 (.inr rfl)).2.2 _ hread).1 _ _
      ⟨device, by decide +kernel, hdevice⟩ ⟨authority, by decide +kernel, hauthority⟩
      (by decide) (by decide)
  · exact (((parse_characterized 200 _).2 (.inl rfl)).2.2 _ hmissing).2.1 "ca_certificate"
      (by simp) (by decide +kernel)
  · exact (((parse_characterized 200 _).2 (.inl rfl)).2.2 _ htwice).2.1 "certificate"
      (by simp) (by decide +kernel)
  · exact (((parse_characterized 200 _).2 (.inl rfl)).2.2 _ hrepeated).2.2 "certificate"
      (by simp) repeated (by decide +kernel) _ hinner (by decide +kernel)
  · exact (parse_characterized 403 _).1 (by decide)

end Onboarding.SignResponse
