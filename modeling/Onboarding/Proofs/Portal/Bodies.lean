import Onboarding.Portal.Request

/-!
# How a body arrives

A body arrives in reads of any size, and the reading stops one byte past the greatest length that is
accepted. What comes of it is a matter of the bytes and of the error behind them, and not of the
reads: `Body.receive_of_cut` computes it from the content. The limit is looked at twice, once for
the length that is declared and once for the bytes that arrive, and an error is met only by a
reading that gets as far.

## Main results

* `Body.take_of_cut`: the bytes that are taken, and whether the error behind them is met.
* `Body.receive_of_cut`: what comes of a body, whatever its reads.
* `Body.receive_iff_of_cut`: when a body is accepted, when it is refused, and for what reason.
-/

namespace Onboarding

/-- Different refusals have different texts. -/
theorem BodyError.message_injective : Function.Injective BodyError.message := by
  -- the first letter tells them apart, and what follows it tells why a body could not be read
  have hlong : (message tooLarge).toList.head? = some 'b' := by decide +kernel
  have hempty : (message empty).toList.head? = some 'e' := by decide +kernel
  have hunreadable (why : String) : (message (unreadable why)).toList.head? = some 'u' := by
    change ("unreadable body: " ++ why).toList.head? = some 'u'
    rw [String.toList_append]
    rfl
  intro e f h
  have hheads : (message e).toList.head? = (message f).toList.head? := by rw [h]
  cases e with
  | tooLarge =>
      rw [hlong] at hheads
      cases f with
      | tooLarge => rfl
      | empty => simp [hempty] at hheads
      | unreadable other => simp [hunreadable] at hheads
  | empty =>
      rw [hempty] at hheads
      cases f with
      | tooLarge => simp [hlong] at hheads
      | empty => rfl
      | unreadable other => simp [hunreadable] at hheads
  | unreadable why =>
      rw [hunreadable] at hheads
      cases f with
      | tooLarge => simp [hlong] at hheads
      | empty => simp [hempty] at hheads
      | unreadable other =>
          have htexts : "unreadable body: " ++ why = "unreadable body: " ++ other := h
          simpa using htexts

/-- Different refusals of a body are different refusals of a request. -/
theorem RequestError.ofBody_injective : Function.Injective RequestError.ofBody := by
  intro e f h
  exact BodyError.message_injective (RequestError.invalidRequest.inj h)

namespace Body

/-! ### The bytes that are taken -/

/-- As long as there is room, content is taken to its end and the error behind it is met. Otherwise
the room is filled and nobody gets to the error. -/
theorem take_of_cut {reads : List Bytes} (hreads : [] ∉ reads) (failure : Option String)
    {room : Nat} (hroom : 0 < room) :
    take failure room reads =
      if reads.flatten.length < room then (reads.flatten, failure)
      else (reads.flatten.take room, none) := by
  induction reads generalizing room with
  | nil => simp [take, hroom]
  | cons read reads ih =>
      have hread : read ≠ [] := fun h => hreads (h ▸ List.mem_cons_self)
      have hrest : [] ∉ reads := fun h => hreads (List.mem_cons_of_mem read h)
      rw [take, if_neg (by simpa using hread), List.flatten_cons, List.length_append]
      by_cases hfull : room ≤ read.length
      · rw [if_pos hfull, if_neg (by omega), List.take_append_of_le_length hfull]
      · rw [if_neg hfull, ih hrest (by omega)]
        by_cases hfits : read.length + reads.flatten.length < room
        · rw [if_pos hfits, if_pos (by omega)]
        · rw [if_neg hfits, if_neg (by omega), List.take_append,
            List.take_of_length_le (by omega : read.length ≤ room)]

/-! ### What comes of a body -/

/-- What comes of content with an error behind it, for the length that was declared. -/
def verdict (content : Bytes) (failure : Option String) (declared : Option Nat) :
    Except BodyError Bytes :=
  if declared.any (maxBodyLength < ·) ∨ maxBodyLength < content.length then .error .tooLarge
  else
    match failure with
    | some why => .error (.unreadable why)
    | none => if content.isEmpty then .error .empty else .ok content

/-- **What comes of a body depends on its bytes alone**, and so does how many of them are taken. -/
theorem receive_of_cut {content : Bytes} {reads : List Bytes} (hcut : reads.flatten = content)
    (hreads : [] ∉ reads) (failure : Option String) (declared : Option Nat) :
    receive ⟨reads, failure⟩ declared =
      (verdict content failure declared,
        if declared.any (maxBodyLength < ·) then 0 else min content.length (maxBodyLength + 1)) := by
  cases hdeclared : declared.any (maxBodyLength < ·) with
  | true => simp [receive, verdict, hdeclared]
  | false =>
      rw [receive, if_neg (by simp [hdeclared]), take_of_cut hreads failure (Nat.succ_pos _), hcut]
      by_cases hfits : content.length < maxBodyLength + 1
      · have hlong : ¬maxBodyLength < content.length := by omega
        rw [if_pos hfits, Nat.min_eq_left (Nat.le_of_lt hfits)]
        cases failure <;> simp [verdict, hdeclared, hlong]
      · have hlong : maxBodyLength < content.length := by omega
        have htaken : (content.take (maxBodyLength + 1)).length = maxBodyLength + 1 := by
          rw [List.length_take]
          omega
        rw [if_neg hfits, Nat.min_eq_right (by omega)]
        simp [verdict, hdeclared, hlong, htaken]

/-! ### When a body is accepted, and why it is refused -/

/-- The content is short enough, and so is the length that was declared for it. -/
def IsShort (content : Bytes) (declared : Option Nat) : Prop :=
  (∀ n ∈ declared, n ≤ 1024) ∧ content.length ≤ 1024

/-- A declared length is too great exactly if it is not short enough. -/
theorem any_declared_iff (declared : Option Nat) :
    declared.any (maxBodyLength < ·) = true ↔ ∃ n ∈ declared, 1024 < n := by
  rw [Option.any_eq_true]
  exact exists_congr fun n => and_congr_right fun _ => decide_eq_true_iff

theorem not_isShort_iff {content : Bytes} {declared : Option Nat} :
    ¬IsShort content declared ↔ (∃ n ∈ declared, 1024 < n) ∨ 1024 < content.length := by
  rw [IsShort, Decidable.not_and_iff_not_or_not]
  simp

section

variable {content : Bytes} {declared : Option Nat} {failure : Option String}

/-- Content that is too long, or declared to be, is refused whatever error is behind it. -/
theorem verdict_of_long (h : ¬IsShort content declared) :
    verdict content failure declared = .error .tooLarge := by
  refine if_pos ?_
  rw [any_declared_iff]
  exact not_isShort_iff.mp h

/-- Content that is short enough is judged by the error behind it, and by itself if there is none. -/
theorem verdict_of_short (h : IsShort content declared) :
    verdict content failure declared =
      match failure with
      | some why => .error (.unreadable why)
      | none => if content.isEmpty then .error .empty else .ok content := by
  refine if_neg ?_
  rw [any_declared_iff]
  exact fun hlong => not_isShort_iff.mpr hlong h

theorem verdict_eq_ok_iff {bytes : Bytes} :
    verdict content failure declared = .ok bytes ↔
      IsShort content declared ∧ failure = none ∧ content ≠ [] ∧ bytes = content := by
  by_cases h : IsShort content declared
  · rw [verdict_of_short h]
    cases failure with
    | some why => simp
    | none => cases content <;> simp [h, eq_comm]
  · rw [verdict_of_long h]
    simp [h]

theorem verdict_eq_tooLarge_iff :
    verdict content failure declared = .error .tooLarge ↔ ¬IsShort content declared := by
  by_cases h : IsShort content declared
  · rw [verdict_of_short h]
    cases failure with
    | some why => simp [h]
    | none => cases content <;> simp [h]
  · rw [verdict_of_long h]
    simp [h]

theorem verdict_eq_unreadable_iff {why : String} :
    verdict content failure declared = .error (.unreadable why) ↔
      IsShort content declared ∧ failure = some why := by
  by_cases h : IsShort content declared
  · rw [verdict_of_short h]
    cases failure with
    | some other => simp [h]
    | none => cases content <;> simp
  · rw [verdict_of_long h]
    simp [h]

theorem verdict_eq_empty_iff :
    verdict content failure declared = .error .empty ↔
      IsShort content declared ∧ content = [] ∧ failure = none := by
  by_cases h : IsShort content declared
  · rw [verdict_of_short h]
    cases failure with
    | some why => simp
    | none => cases content <;> simp [h]
  · rw [verdict_of_long h]
    simp [h]

end

/-- **When a body is accepted, and why it is refused**, for content in reads of any size, an error
behind it or none, and a declared length or none. -/
theorem receive_iff_of_cut {content : Bytes} {reads : List Bytes} (hcut : reads.flatten = content)
    (hreads : [] ∉ reads) (failure : Option String) (declared : Option Nat) :
    let received := receive ⟨reads, failure⟩ declared
    let result := received.1.mapError RequestError.ofBody
    (∀ others, others.flatten = content → [] ∉ others →
      receive ⟨others, failure⟩ declared = received) ∧
    (∀ bytes, result = .ok bytes ↔ bytes = content ∧ (∀ n ∈ declared, n ≤ 1024) ∧
      1 ≤ content.length ∧ content.length ≤ 1024 ∧ failure = none) ∧
    (result = .error (.invalidRequest "body too large") ↔
      (∃ n ∈ declared, 1024 < n) ∨ 1024 < content.length) ∧
    (∀ why, result = .error (.invalidRequest ("unreadable body: " ++ why)) ↔
      (∀ n ∈ declared, n ≤ 1024) ∧ content.length ≤ 1024 ∧ failure = some why) ∧
    (result = .error (.invalidRequest "empty body") ↔
      (∀ n ∈ declared, n ≤ 1024) ∧ content = [] ∧ failure = none) ∧
    ((∃ n ∈ declared, 1024 < n) → received.2 = 0) ∧
    ((∀ n ∈ declared, n ≤ 1024) → received.2 = min content.length 1025) := by
  intro received result
  have hreceived := receive_of_cut hcut hreads failure declared
  have hresult : result = (verdict content failure declared).mapError RequestError.ofBody :=
    congrArg (fun r : Except BodyError Bytes × Nat => r.1.mapError RequestError.ofBody) hreceived
  have hok : ∀ bytes, result = .ok bytes ↔ verdict content failure declared = .ok bytes := by
    intro bytes
    rw [hresult]
    cases verdict content failure declared with
    | ok taken =>
        change Except.ok taken = Except.ok bytes ↔ _
        rw [Except.ok.injEq, Except.ok.injEq]
    | error e => exact ⟨fun h => (nomatch h), fun h => (nomatch h)⟩
  have herror : ∀ e, result = .error (.ofBody e) ↔
      verdict content failure declared = .error e := by
    intro e
    rw [hresult]
    cases verdict content failure declared with
    | ok bytes => exact ⟨fun h => (nomatch h), fun h => (nomatch h)⟩
    | error f =>
        change Except.error (RequestError.ofBody f) = Except.error (RequestError.ofBody e) ↔ _
        rw [Except.error.injEq, Except.error.injEq, RequestError.ofBody_injective.eq_iff]
  have htaken : received.2 = if declared.any (maxBodyLength < ·) then 0
      else min content.length 1025 := congrArg Prod.snd hreceived
  refine ⟨?_, ?_, ?_, ?_, ?_, ?_, ?_⟩
  · intro others hothers hnone
    exact (receive_of_cut hothers hnone failure declared).trans hreceived.symm
  · intro bytes
    have hlength : 1 ≤ content.length ↔ content ≠ [] := List.length_pos_iff
    rw [hok, verdict_eq_ok_iff, IsShort, hlength]
    constructor
    · rintro ⟨⟨hdeclared, hlong⟩, hfailure, hne, hbytes⟩
      exact ⟨hbytes, hdeclared, hne, hlong, hfailure⟩
    · rintro ⟨hbytes, hdeclared, hne, hlong, hfailure⟩
      exact ⟨⟨hdeclared, hlong⟩, hfailure, hne, hbytes⟩
  · exact (herror .tooLarge).trans (verdict_eq_tooLarge_iff.trans not_isShort_iff)
  · intro why
    exact (herror (.unreadable why)).trans (verdict_eq_unreadable_iff.trans and_assoc)
  · refine (herror .empty).trans (verdict_eq_empty_iff.trans ?_)
    constructor
    · rintro ⟨hshort, hempty, hfailure⟩
      exact ⟨hshort.1, hempty, hfailure⟩
    · rintro ⟨hdeclared, rfl, hfailure⟩
      exact ⟨⟨hdeclared, Nat.zero_le _⟩, rfl, hfailure⟩
  · intro hlong
    rw [htaken, if_pos ((any_declared_iff declared).mpr hlong)]
  · intro hshort
    rw [htaken, if_neg]
    rw [any_declared_iff]
    rintro ⟨n, hn, hlong⟩
    exact Nat.not_le_of_lt hlong (hshort n hn)

/-- Behind the greatest accepted content an error is met; one byte more, and it is not. -/
theorem receive_iff_of_cut_of_reset :
    let reads : List Bytes := [List.replicate 600 0x20, List.replicate 424 0x20]
    let full := receive ⟨reads, some "reset"⟩ none
    let longer := receive ⟨reads ++ [[0x20]], some "reset"⟩ none
    (full.1.mapError RequestError.ofBody = .error (.invalidRequest "unreadable body: reset") ∧
      full.2 = 1024) ∧
    (longer.1.mapError RequestError.ofBody = .error (.invalidRequest "body too large") ∧
      longer.2 = 1025) := by
  intro reads full longer
  have hpair : ∀ m n, [List.replicate m 0x20, List.replicate n 0x20].flatten =
      List.replicate (m + n) (0x20 : UInt8) := by
    intro m n
    simp [List.replicate_append_replicate]
  have hfull : reads.flatten = List.replicate 1024 0x20 := hpair 600 424
  have hover : (reads ++ [[0x20]]).flatten = List.replicate 1025 0x20 := by
    rw [List.flatten_append, hfull]
    exact List.replicate_succ'.symm
  have hnonempty : ∀ n, [] ≠ List.replicate (n + 1) (0x20 : UInt8) := fun n h => nomatch h
  have hreads : [] ∉ reads := by
    simp only [reads, List.mem_cons, List.not_mem_nil, or_false, not_or]
    exact ⟨hnonempty 599, hnonempty 423⟩
  have hmore : [] ∉ reads ++ [[0x20]] := by
    simp only [List.mem_append, List.mem_singleton, not_or]
    exact ⟨hreads, hnonempty 0⟩
  have hdeclared : ∀ n ∈ (none : Option Nat), n ≤ 1024 := by simp
  have hlength : ∀ n, (List.replicate n (0x20 : UInt8)).length = n := fun n => List.length_replicate
  obtain ⟨-, -, -, hunreadable, -, -, htaken⟩ :=
    receive_iff_of_cut hfull hreads (some "reset") none
  obtain ⟨-, -, htooLarge, -, -, -, hovertaken⟩ :=
    receive_iff_of_cut hover hmore (some "reset") none
  rw [hlength] at htaken hovertaken
  refine ⟨⟨(hunreadable "reset").mpr ⟨hdeclared, ?_, rfl⟩, htaken hdeclared⟩,
    htooLarge.mpr (.inr ?_), hovertaken hdeclared⟩
  · exact Nat.le_of_eq (hlength 1024)
  · exact Nat.lt_of_lt_of_eq (Nat.lt_succ_self 1024) (hlength 1025).symm

end Body

end Onboarding
