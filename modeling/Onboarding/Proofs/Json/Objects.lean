import Onboarding.Json.Printer
import Onboarding.Json.Reader
import Onboarding.Proofs.Json.Texts

/-!
# Flat objects through JSON and back

An object whose members are texts and flags is written with or without blanks between its parts, and
is read back as it was: `Json.members_joined` reads the members for any blanks, and
`Json.parse?_pretty` puts the parts together for a written file.

## Main results

* `Json.value_compact`: a text or a flag is read back.
* `Json.members_joined`: written members are read back.
* `Json.parse?_pretty`: a written object of texts and flags is read back.
* `Table.ofList_entries`: the entries of a table make up that table.
-/

namespace Onboarding

open Utf8 (bytes)

namespace Json

/-- A text or a flag. -/
def IsPlain : Json → Prop
  | text _ | bool _ => True
  | null | number _ | array _ | object _ => False

/-! ### Blanks -/

/-- Characters that are skipped between the parts of a JSON text. -/
def Blank (cs : List Char) : Prop :=
  ∀ b ∈ bytes cs, isBlankByte b = true

theorem blank_nil : Blank [] := by
  intro b h
  simp [bytes] at h

theorem blank_space : Blank [' '] := by
  intro b h
  change b ∈ [0x20] at h
  obtain rfl := List.mem_singleton.mp h
  rfl

/-- The break between two lines is blank. -/
theorem blank_newLine (level : Nat) : Blank (newLine level) := by
  intro b h
  simp only [newLine, bytes, List.flatMap_cons, List.mem_append, List.mem_flatMap,
    List.mem_replicate] at h
  rcases h with h | ⟨c, ⟨-, rfl⟩, h⟩
  · change b ∈ [0x0A] at h
    obtain rfl := List.mem_singleton.mp h
    rfl
  · change b ∈ [0x20] at h
    obtain rfl := List.mem_singleton.mp h
    rfl

/-- Blanks are skipped up to the first byte that is none. -/
theorem skipBlank_append {cs : List Char} (h : Blank cs) {b : UInt8}
    (hb : isBlankByte b = false) (rest : Bytes) :
    skipBlank (bytes cs ++ b :: rest) = b :: rest := by
  rw [skipBlank, List.dropWhile_append_of_pos h, List.dropWhile_cons_of_neg (by simp [hb])]

/-! ### Texts and flags -/

/-- A text is read back, whatever follows it. -/
theorem value_text (s : String) (fuel depth : Nat) {before : List Char} (h : Blank before)
    (rest : Bytes) :
    value (fuel + 1) depth (bytes before ++ bytes (JsonText.write s) ++ rest) =
      some (text s, rest) := by
  have hstart : bytes before ++ bytes (JsonText.write s) ++ rest =
      bytes before ++ 0x22 :: (JsonText.body s ++ 0x22 :: rest) := by
    rw [JsonText.bytes_write]
    simp
  rw [hstart, value, skipBlank_append h rfl]
  simp only [if_true, JsonText.read_body]
  rfl

/-- A flag is read back, whatever follows it. -/
theorem value_bool (b : Bool) (fuel depth : Nat) {before : List Char} (h : Blank before)
    (rest : Bytes) :
    value (fuel + 1) depth (bytes before ++ bytes (boolText b) ++ rest) = some (bool b, rest) := by
  have htrue : Utf8.encode "true" = [0x74, 0x72, 0x75, 0x65] := by decide +kernel
  have hfalse : Utf8.encode "false" = [0x66, 0x61, 0x6C, 0x73, 0x65] := by decide +kernel
  have hnull : Utf8.encode "null" = [0x6E, 0x75, 0x6C, 0x6C] := by decide +kernel
  cases b with
  | true =>
      have hword : bytes (boolText true) = [0x74, 0x72, 0x75, 0x65] := by decide +kernel
      rw [hword, List.append_assoc, List.cons_append, value, skipBlank_append h rfl]
      simp [constant, expect, htrue, hnull, Lexeme.digit?]
  | false =>
      have hword : bytes (boolText false) = [0x66, 0x61, 0x6C, 0x73, 0x65] := by decide +kernel
      rw [hword, List.append_assoc, List.cons_append, value, skipBlank_append h rfl]
      simp [constant, expect, htrue, hfalse, hnull, Lexeme.digit?]

/-- **A text or a flag is read back**, whatever follows it. -/
theorem value_compact {v : Json} (hv : v.IsPlain) (fuel depth : Nat) {before : List Char}
    (h : Blank before) (rest : Bytes) :
    value (fuel + 1) depth (bytes before ++ bytes (compact v) ++ rest) = some (v, rest) := by
  cases v with
  | text s => exact value_text s fuel depth h rest
  | bool b => exact value_bool b fuel depth h rest
  | null | number | array | object => exact hv.elim

/-- A text or a flag is written alike with and without lines. -/
theorem prettyAt_of_isPlain {v : Json} (hv : v.IsPlain) (level : Nat) :
    prettyAt level v = compact v := by
  cases v with
  | text | bool => simp [prettyAt, compact]
  | null | number | array | object => exact hv.elim

/-! ### Members -/

/-- A member with `gap` between the colon and the value. -/
def memberText (gap : List Char) (m : String × Json) : List Char :=
  JsonText.write m.1 ++ ':' :: gap ++ compact m.2

/-- A name is read back together with its colon. -/
theorem name_write (k : String) {before : List Char} (h : Blank before) (rest : Bytes) :
    name (bytes before ++ bytes (JsonText.write k) ++ 0x3A :: rest) = some (k, rest) := by
  have hstart : bytes before ++ bytes (JsonText.write k) ++ 0x3A :: rest =
      bytes before ++ 0x22 :: (JsonText.body k ++ 0x22 :: 0x3A :: rest) := by
    rw [JsonText.bytes_write]
    simp
  have hcolon : skipBlank (0x3A :: rest) = 0x3A :: rest := rfl
  rw [hstart, name, skipBlank_append h rfl]
  simp only [JsonText.read_body, hcolon]

/-- The first of the written members is read back; what follows decides about the others. -/
theorem members_memberText {gap before : List Char} (hgap : Blank gap)
    (hbefore : Blank before) {m : String × Json} (hm : m.2.IsPlain) (fuel depth : Nat)
    (rest : Bytes) :
    members (fuel + 2) depth (bytes before ++ bytes (memberText gap m) ++ rest) =
      match skipBlank rest with
      | 0x2C :: r => (members (fuel + 1) depth r).map fun (ms, r) => (m :: ms, r)
      | 0x7D :: r => some ([m], r)
      | _ => none := by
  obtain ⟨k, v⟩ := m
  have htext : bytes before ++ bytes (memberText gap (k, v)) ++ rest =
      bytes before ++ bytes (JsonText.write k) ++
        0x3A :: (bytes gap ++ bytes (compact v) ++ rest) := by
    simp only [memberText, Utf8.bytes_append, List.append_assoc]
    rfl
  have hname := name_write k hbefore (bytes gap ++ bytes (compact v) ++ rest)
  have hvalue := value_compact hm fuel depth hgap rest
  rw [htext, members]
  -- what is read is put in by name, since the matches on it hide it from a rewrite
  generalize name _ = o at hname ⊢
  subst hname
  dsimp only
  generalize value _ _ _ = o at hvalue ⊢
  subst hvalue
  rfl

/-- **Written members are read back** up to the brace that ends them, whatever blanks stand between
their parts. -/
theorem members_joined {gap between after : List Char} (hgap : Blank gap)
    (hbetween : Blank between) (hafter : Blank after) (depth : Nat) (rest : Bytes)
    {ms : List (String × Json)} (hne : ms ≠ []) (hms : ∀ m ∈ ms, m.2.IsPlain)
    {before : List Char} (hbefore : Blank before) {fuel : Nat} (hfuel : ms.length < fuel) :
    members fuel depth (bytes before ++
        bytes (joined (',' :: between) (ms.map (memberText gap))) ++
          (bytes after ++ 0x7D :: rest)) =
      some (ms, rest) := by
  induction ms generalizing before fuel with
  | nil => exact absurd rfl hne
  | cons m ms ih =>
      have hm : m.2.IsPlain := hms m List.mem_cons_self
      obtain ⟨fuel, rfl⟩ : ∃ n, fuel = n + 2 := by
        refine ⟨fuel - 2, ?_⟩
        rw [List.length_cons] at hfuel
        omega
      cases ms with
      | nil =>
          simp only [List.map_cons, List.map_nil, joined]
          rw [members_memberText hgap hbefore hm, skipBlank_append hafter rfl]
          rfl
      | cons n ms =>
          have htail : ∀ m ∈ n :: ms, m.2.IsPlain := fun m hm => hms m (List.mem_cons_of_mem _ hm)
          have hlength : (n :: ms).length < fuel + 1 := by
            rw [List.length_cons] at hfuel
            omega
          have hrest : bytes before ++
              bytes (joined (',' :: between) ((m :: n :: ms).map (memberText gap))) ++
                (bytes after ++ 0x7D :: rest) =
              bytes before ++ bytes (memberText gap m) ++
                0x2C :: (bytes between ++
                  bytes (joined (',' :: between) ((n :: ms).map (memberText gap))) ++
                    (bytes after ++ 0x7D :: rest)) := by
            simp only [List.map_cons, joined, Utf8.bytes_append, List.append_assoc]
            rfl
          rw [hrest, members_memberText hgap hbefore hm]
          change Option.map _ (members (fuel + 1) depth _) = _
          rw [ih (by simp) htail hbetween hlength]
          rfl

/-- Each written member takes at least one byte. -/
theorem length_le_bytes_joined (gap separator : List Char) (ms : List (String × Json)) :
    ms.length ≤ (bytes (joined separator (ms.map (memberText gap)))).length := by
  have hmember : ∀ m : String × Json, 1 ≤ (bytes (memberText gap m)).length := by
    intro m
    simp only [memberText, Utf8.bytes_append, JsonText.bytes_write, List.length_append,
      List.length_cons]
    omega
  induction ms with
  | nil => exact Nat.zero_le _
  | cons m ms ih =>
      have := hmember m
      cases ms with
      | nil => simpa [joined] using this
      | cons n ms =>
          simp only [List.map_cons, joined, Utf8.bytes_append, List.length_append,
            List.length_cons] at ih ⊢
          omega

/-- Written members begin with the quote of a name. -/
theorem bytes_joined_cons (gap separator : List Char) (m : String × Json)
    (ms : List (String × Json)) :
    ∃ rest, bytes (joined separator ((m :: ms).map (memberText gap))) = 0x22 :: rest := by
  have hmember : ∃ rest, bytes (memberText gap m) = 0x22 :: rest := by
    refine ⟨JsonText.body m.1 ++ [0x22] ++ bytes (':' :: gap) ++ bytes (compact m.2), ?_⟩
    simp only [memberText, Utf8.bytes_append, JsonText.bytes_write, List.cons_append]
  obtain ⟨rest, hrest⟩ := hmember
  cases ms with
  | nil => exact ⟨rest, hrest⟩
  | cons n ms =>
      refine ⟨rest ++ bytes separator ++
        bytes (joined separator ((n :: ms).map (memberText gap))), ?_⟩
      simp only [List.map_cons, joined, Utf8.bytes_append, hrest, List.cons_append]

/-! ### Objects -/

/-- A brace with the quote of a name behind it begins an object that is made of its members. -/
theorem value_of_members (fuel depth : Nat) {r inner : Bytes}
    (h : skipBlank r = 0x22 :: inner) :
    value (fuel + 1) (depth + 1) (0x7B :: r) =
      (members fuel depth (0x22 :: inner)).map fun p => (ofMembers p.1, p.2) := by
  have hopen : skipBlank (0x7B :: r) = 0x7B :: r := rfl
  rw [value, hopen]
  dsimp only
  rw [h]
  rfl

/-- A written object of texts and flags is read back, whatever follows it. -/
theorem value_object {gap before between after : List Char} (hgap : Blank gap)
    (hbefore : Blank before) (hbetween : Blank between) (hafter : Blank after) (depth : Nat)
    (rest : Bytes) {ms : List (String × Json)} (hne : ms ≠ []) (hms : ∀ m ∈ ms, m.2.IsPlain)
    {fuel : Nat} (hfuel : ms.length < fuel) :
    value (fuel + 1) (depth + 1) (0x7B :: (bytes before ++
        bytes (joined (',' :: between) (ms.map (memberText gap))) ++
          (bytes after ++ 0x7D :: rest))) =
      some (ofMembers ms, rest) := by
  have hmembers := members_joined hgap hbetween hafter depth rest hne hms blank_nil hfuel
  cases ms with
  | nil => exact absurd rfl hne
  | cons m ms =>
      obtain ⟨inner, hinner⟩ := bytes_joined_cons gap (',' :: between) m ms
      rw [hinner] at hmembers ⊢
      change members fuel depth (0x22 :: (inner ++ (bytes after ++ 0x7D :: rest))) = _ at hmembers
      have hbrace : skipBlank (bytes before ++ 0x22 :: (inner ++ (bytes after ++ 0x7D :: rest))) =
          0x22 :: (inner ++ (bytes after ++ 0x7D :: rest)) := skipBlank_append hbefore rfl _
      rw [List.append_assoc, List.cons_append, value_of_members fuel depth hbrace, hmembers]
      rfl

/-- The members of a written object. -/
theorem prettyMembers_eq {ms : List (String × Json)} (hms : ∀ m ∈ ms, m.2.IsPlain) (level : Nat) :
    prettyMembers level ms = ms.map (memberText [' ']) := by
  induction ms with
  | nil => rfl
  | cons m ms ih =>
      have hm := prettyAt_of_isPlain (hms m List.mem_cons_self) level
      have htail := ih fun n hn => hms n (List.mem_cons_of_mem _ hn)
      rw [prettyMembers, hm, htail, List.map_cons, memberText]
      simp

/-- **A written object of texts and flags is read back**; of equal names the last one wins. -/
theorem parse?_pretty {ms : List (String × Json)} (hms : ∀ m ∈ ms, m.2.IsPlain) :
    parse? (Utf8.encode (pretty (object ms))) = some (ofMembers ms) := by
  rw [pretty, Utf8.encode_ofList]
  cases ms with
  | nil => rfl
  | cons m r =>
      have htext : bytes (prettyAt 0 (object (m :: r))) =
          0x7B :: (bytes (newLine 1) ++
            bytes (joined (',' :: newLine 1) ((m :: r).map (memberText [' ']))) ++
              (bytes (newLine 0) ++ [0x7D])) := by
        rw [prettyAt, prettyMembers_eq hms]
        simp only [List.cons_append, List.append_assoc]
        change 0x7B :: bytes (newLine 1 ++ _) = _
        simp only [Utf8.bytes_append]
        rfl
      have hlength := length_le_bytes_joined [' '] (',' :: newLine 1) (m :: r)
      obtain ⟨fuel, hfuel, hlt⟩ : ∃ fuel,
          enough (bytes (prettyAt 0 (object (m :: r)))) = fuel + 1 ∧ (m :: r).length < fuel := by
        refine ⟨2 * (bytes (prettyAt 0 (object (m :: r)))).length + 1, rfl, ?_⟩
        rw [htext]
        simp only [List.length_cons, List.length_append] at hlength ⊢
        omega
      have hvalue := value_object blank_space (blank_newLine 1) (blank_newLine 1)
        (blank_newLine 0) 126 [] (by simp) hms hlt
      rw [parse?, hfuel, htext, maxDepth, hvalue]
      rfl

end Json

/-! ### Tables -/

namespace Entries

variable {α : Type}

/-- Entries with different keys are found among those that they are put into. -/
theorem get?_foldl_insert {l : List (String × α)} (h : Sorted l) (t : List (String × α))
    (k : String) :
    get? k (l.foldl (fun t e => insert e.1 e.2 t) t) = (get? k l).or (get? k t) := by
  induction l generalizing t with
  | nil => rfl
  | cons e l ih =>
      obtain ⟨j, a⟩ := e
      obtain ⟨hj, hl⟩ := List.pairwise_cons.1 h
      rw [List.foldl_cons, ih hl, get?_insert, get?]
      by_cases hk : j = k
      · subst hk
        rw [get?_eq_none_of_lt hj]
        simp
      · simp [hk]

/-- Entries in order are what they are entered as. -/
theorem ofList_of_sorted {l : List (String × α)} (h : Sorted l) : ofList l = l := by
  refine eq_of_get?_eq (sorted_ofList l) h ?_
  intro k
  rw [ofList, get?_foldl_insert h, get?, Option.or_none]

end Entries

/-- The entries of a table make up that table. -/
theorem Table.ofList_entries {α : Type} (t : Table α) : Table.ofList t.entries = t := by
  refine Table.ext_get? ?_
  intro k
  exact congrArg (Entries.get? k) (Entries.ofList_of_sorted t.sorted)

end Onboarding
