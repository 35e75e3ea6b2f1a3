import Onboarding.Proofs.Store.Durable

/-!
# Calls that take effect as a whole

A call on a store in a file stages its changes and then commits them, and a commit that fails takes
all of them back. So a call that fails leaves the store as it was. Only the call that erases
everything commits twice, and may stop in between: then the record is gone, and the rest is there.

What becomes of a commit is up to the host, which may treat the file differently for every call
(`Attempt`). Nothing is assumed about that.

## Main results

* `Store.IsSettled.call`: after every call the staged values are the committed ones.
* `Store.get?_call_of_error`, `Store.get?_eraseAll_of_error`: what a call leaves that fails.
* `Store.IsSettled.attempt`: every attempt is made as a whole or not at all.
* `Store.IsSettled.loadRecord_attempt`: an attempt keeps the record, clears it, or saves its own.
* `Store.attempt_allOrNothing`: all of this, along any run of a store that was just opened.
-/

namespace Onboarding

/-- Whether a call ends in a commit, as all do but a bare change. -/
def StoreCall.commits : StoreCall → Bool
  | change _ => false
  | commit | saveRecord _ | clearRecord | saveCertificates _ | eraseAll => true

/-- A call that ends in a commit stages some changes before it, unless it erases everything. -/
theorem StoreCall.perform_of_commits {c : StoreCall} (hc : c.commits = true) (hne : c ≠ .eraseAll) :
    ∃ ws : List Write, ∀ s : Store, c.perform s = s.perform ws := by
  cases c with
  | change w => simp [commits] at hc
  | eraseAll => exact absurd rfl hne
  | commit => exact ⟨[], fun _ => rfl⟩
  | saveRecord r => exact ⟨Store.saveWrites r, fun _ => rfl⟩
  | clearRecord => exact ⟨Store.clearWrites, fun _ => rfl⟩
  | saveCertificates certificates => exact ⟨Store.certificateWrites certificates, fun _ => rfl⟩

/-- A call that ends in a commit, and how the host treats the file meanwhile. -/
structure Attempt where
  call : StoreCall
  /-- What the path of the file leads to by now. -/
  place : Place
  /-- Which of the commits the host lets fail. -/
  faults : Faults := .never
  commits : call.commits = true := by rfl

namespace Store

/-- The store as the host keeps it from now on. It does not keep a store in memory. -/
def hosted (place : Place) (faults : Faults) : Store → Store
  | memory m => memory m
  | file f => file { f with place, faults }

/-- Makes an attempt. -/
def attempt (s : Store) (a : Attempt) : Store × Except StoreError Unit :=
  a.call.perform (s.hosted a.place a.faults)

/-- The store after attempts in their order. -/
def attemptAll (s : Store) (run : List Attempt) : Store :=
  run.foldl (fun s a => (s.attempt a).1) s

/-- A store in a file without staged changes. -/
def IsSettled (s : Store) : Prop :=
  ∃ f : FileStore, s = file f ∧ f.values = f.committed

/-- How the host keeps a file does not change what is read. -/
theorem get?_hosted (place : Place) (faults : Faults) (s : Store) (k : String) :
    (s.hosted place faults).get? k = s.get? k := by
  cases s <;> rfl

namespace IsSettled

variable {s t : Store}

theorem steady (hs : s.IsSettled) : s.Steady := by
  obtain ⟨f, rfl, hf⟩ := hs
  exact hf

theorem hosted (hs : s.IsSettled) (place : Place) (faults : Faults) :
    (s.hosted place faults).IsSettled := by
  obtain ⟨f, rfl, hf⟩ := hs
  exact ⟨{ f with place, faults }, rfl, hf⟩

/-- A commit that ends an operation leaves nothing staged, whether it fails or not. -/
theorem perform (hs : s.IsSettled) (ws : List Write) : (s.perform ws).1.IsSettled := by
  obtain ⟨f, rfl, -⟩ := hs
  rw [Store.perform, f.applyAll_eq ws]
  exact ⟨_, rfl, FileStore.commit_values _⟩

/-- Between the two commits of the call that erases everything nothing is staged either. -/
theorem of_clearRecord (hs : s.IsSettled) {result : Except StoreError Unit}
    (h : s.clearRecord = (t, result)) : t.IsSettled := by
  have hclear := hs.perform clearWrites
  rwa [← Store.clearRecord, h] at hclear

/-- **After every call that ends in a commit the staged values are the committed ones.** -/
theorem call (hs : s.IsSettled) {c : StoreCall} (hc : c.commits = true) :
    (c.perform s).1.IsSettled := by
  by_cases herase : c = .eraseAll
  · subst herase
    rw [StoreCall.perform, eraseAll]
    split
    · rename_i t hclear
      exact (hs.of_clearRecord hclear).perform (Key.certificates.map .erase)
    · rename_i t e hclear
      exact hs.of_clearRecord hclear
  · obtain ⟨ws, hws⟩ := StoreCall.perform_of_commits hc herase
    rw [hws]
    exact hs.perform ws

end IsSettled

/-! ### Calls that fail -/

/-- A call with one commit that fails changes no look-up. -/
theorem get?_call_of_error {s t : Store} (hs : s.IsSettled) {c : StoreCall}
    (hc : c.commits = true) (hne : c ≠ .eraseAll) {e : StoreError}
    (h : c.perform s = (t, .error e)) (k : String) : t.get? k = s.get? k := by
  obtain ⟨ws, hws⟩ := StoreCall.perform_of_commits hc hne
  rw [hws] at h
  exact get?_perform_of_error hs.steady h k

/-- Erasing everything fails before anything is erased, or with the record erased and nothing
else. -/
theorem get?_eraseAll_of_error {s t : Store} (hs : s.IsSettled) {e : StoreError}
    (h : s.eraseAll = (t, .error e)) :
    (∀ k, t.get? k = s.get? k) ∨
      ∀ k, t.get? k = if k ∈ Key.provisioned :: Key.record then none else s.get? k := by
  rw [eraseAll] at h
  split at h
  · rename_i u hclear
    right
    intro k
    rw [get?_perform_of_error (hs.of_clearRecord hclear).steady h, get?_clearRecord hclear]
  · rename_i u e' hclear
    obtain ⟨rfl, -⟩ := Prod.mk.inj h
    left
    exact get?_perform_of_error hs.steady hclear

/-! ### Records after a call -/

/-- A store whose look-ups are those of a cleared one loads no record. -/
theorem loadRecord_of_cleared {s t : Store}
    (h : ∀ k, t.get? k = if k ∈ Key.provisioned :: Key.record then none else s.get? k) :
    t.loadRecord = .ok none := by
  apply loadRecord_of_unset
  apply isProvisioned_of_get?
  rw [h, if_pos List.mem_cons_self]

/-- Once everything was erased there is no record. -/
theorem loadRecord_eraseAll {s t : Store} (h : s.eraseAll = (t, .ok ())) :
    t.loadRecord = .ok none := by
  rw [eraseAll] at h
  split at h
  · rename_i u hclear
    apply loadRecord_of_unset
    apply isProvisioned_of_get?
    have hother : Key.provisioned ∉ Key.certificates := by decide
    rw [get?_perform h, Write.leavesAll_erase, if_neg hother, get?_clearRecord hclear,
      if_pos List.mem_cons_self]
  · simp at h

/-- A call keeps the record, leaves none, or saves its own. -/
theorem IsSettled.loadRecord_call {s : Store} (hs : s.IsSettled) {c : StoreCall}
    (hc : c.commits = true) :
    (c.perform s).1.loadRecord = s.loadRecord ∨ (c.perform s).1.loadRecord = .ok none ∨
      ∃ r, c = .saveRecord r ∧
        (c.perform s).1.loadRecord = .ok (some { r with provisioned := true }) := by
  cases hcall : c.perform s with
  | mk t result =>
      cases result with
      | error e =>
          by_cases herase : c = .eraseAll
          · subst herase
            rcases get?_eraseAll_of_error hs hcall with hsame | hcleared
            · exact .inl (loadRecord_congr fun k _ => hsame k)
            · exact .inr (.inl (loadRecord_of_cleared hcleared))
          · exact .inl (loadRecord_congr fun k _ => get?_call_of_error hs hc herase hcall k)
      | ok _ =>
          cases c with
          | change w => simp [StoreCall.commits] at hc
          | commit => exact .inl (loadRecord_congr fun k _ => get?_commit hcall k)
          | saveRecord r => exact .inr (.inr ⟨r, rfl, loadRecord_saveRecord hcall⟩)
          | clearRecord => exact .inr (.inl (loadRecord_of_cleared (get?_clearRecord hcall)))
          | saveCertificates certificates =>
              exact .inl (loadRecord_congr fun k hk => get?_record_saveCertificates hcall hk)
          | eraseAll => exact .inr (.inl (loadRecord_eraseAll hcall))

/-! ### Attempts -/

/-- What an attempt leaves of the store that it found. -/
structure AllOrNothing (before after : Store) (a : Attempt) (result : Except StoreError Unit) :
    Prop where
  settled : after.IsSettled
  /-- A save that succeeds is there as a whole. -/
  saved : ∀ r, a.call = .saveRecord r → result = .ok () →
    after.loadRecord = .ok (some { r with provisioned := true })
  /-- A call that fails leaves everything that is loaded as it was. -/
  unchanged : ∀ e, result = .error e → a.call ≠ .eraseAll →
    after.loadRecord = before.loadRecord ∧ after.loadCertificates = before.loadCertificates ∧
      after.loadBearerToken = before.loadBearerToken
  /-- Erasing everything, where it fails, leaves everything or everything but the record. -/
  halfway : ∀ e, result = .error e → a.call = .eraseAll →
    (∀ k, after.get? k = before.get? k) ∨
      ∀ k, after.get? k = if k ∈ Key.provisioned :: Key.record then none else before.get? k

namespace IsSettled

variable {s : Store}

/-- **Every attempt is made as a whole or not at all**, up to the record that erasing everything
takes first. -/
theorem attempt (hs : s.IsSettled) (a : Attempt) :
    AllOrNothing s (s.attempt a).1 a (s.attempt a).2 := by
  have hhosted := hs.hosted a.place a.faults
  have hget : ∀ k, (s.hosted a.place a.faults).get? k = s.get? k :=
    fun k => get?_hosted a.place a.faults s k
  have hcalled : ∀ result, (s.attempt a).2 = result →
      a.call.perform (s.hosted a.place a.faults) = ((s.attempt a).1, result) :=
    fun _ h => Prod.ext rfl h
  refine ⟨hhosted.call a.commits, ?_, ?_, ?_⟩
  · intro r hcall hok
    have hsave := hcalled _ hok
    rw [hcall] at hsave
    exact loadRecord_saveRecord hsave
  · intro e herror hne
    have hsame : ∀ k, (s.attempt a).1.get? k = s.get? k := fun k =>
      (get?_call_of_error hhosted a.commits hne (hcalled _ herror) k).trans (hget k)
    exact ⟨loadRecord_congr fun k _ => hsame k, loadCertificates_congr fun k _ => hsame k,
      loadBearerToken_congr (hsame _)⟩
  · intro e herror herase
    have hfailed := hcalled _ herror
    rw [herase] at hfailed
    simpa only [hget] using get?_eraseAll_of_error hhosted hfailed

/-- An attempt keeps the record, leaves none, or saves its own. -/
theorem loadRecord_attempt (hs : s.IsSettled) (a : Attempt) :
    (s.attempt a).1.loadRecord = s.loadRecord ∨ (s.attempt a).1.loadRecord = .ok none ∨
      ∃ r, a.call = .saveRecord r ∧
        (s.attempt a).1.loadRecord = .ok (some { r with provisioned := true }) := by
  have hsame : (s.hosted a.place a.faults).loadRecord = s.loadRecord :=
    loadRecord_congr fun k _ => get?_hosted a.place a.faults s k
  rw [← hsame]
  exact (hs.hosted a.place a.faults).loadRecord_call a.commits

theorem attemptAll (hs : s.IsSettled) (run : List Attempt) : (s.attemptAll run).IsSettled := by
  induction run generalizing s with
  | nil => exact hs
  | cons a run ih => exact ih (hs.attempt a).settled

/-- After a run the record is the one from before, none, or one that the run saved. -/
theorem loadRecord_attemptAll (hs : s.IsSettled) (run : List Attempt) :
    (s.attemptAll run).loadRecord = s.loadRecord ∨ (s.attemptAll run).loadRecord = .ok none ∨
      ∃ a ∈ run, ∃ r, a.call = .saveRecord r ∧
        (s.attemptAll run).loadRecord = .ok (some { r with provisioned := true }) := by
  induction run generalizing s with
  | nil => exact .inl rfl
  | cons a run ih =>
      have htail : s.attemptAll (a :: run) = (s.attempt a).1.attemptAll run := rfl
      rw [htail]
      rcases ih (hs.attempt a).settled with hkept | hnone | ⟨b, hb, r, hcall, hr⟩
      · rw [hkept]
        rcases hs.loadRecord_attempt a with hsame | hnone | ⟨r, hcall, hr⟩
        · exact .inl hsame
        · exact .inr (.inl hnone)
        · exact .inr (.inr ⟨a, List.mem_cons_self, r, hcall, hr⟩)
      · exact .inr (.inl hnone)
      · exact .inr (.inr ⟨b, List.mem_cons_of_mem _ hb, r, hcall, hr⟩)

end IsSettled

/-- A store that was just opened has nothing staged. -/
theorem isSettled_opened {place : Place} {s : FileStore} (h : FileStore.openAt place = .ok s) :
    (file s).IsSettled := by
  refine ⟨s, rfl, ?_⟩
  rw [FileStore.openAt] at h
  split at h
  · cases h
    rfl
  · split at h
    · cases h
      rfl
    · simp at h

/-- **A failed attempt leaves no part of itself**, whatever was attempted before on a store that was
opened and whichever commits failed; so what is loaded after it is never a mix of two records. -/
theorem attempt_allOrNothing {place : Place} {s : FileStore} (hs : FileStore.openAt place = .ok s)
    (earlier : List Attempt) (a : Attempt) :
    let before := (file s).attemptAll earlier
    let after := (before.attempt a).1
    AllOrNothing before after a (before.attempt a).2 ∧
      (after.loadRecord = (file s).loadRecord ∨ after.loadRecord = .ok none ∨
        ∃ b ∈ earlier ++ [a], ∃ r, b.call = .saveRecord r ∧
          after.loadRecord = .ok (some { r with provisioned := true })) := by
  intro before after
  have hopened : (file s).IsSettled := isSettled_opened hs
  refine ⟨(hopened.attemptAll earlier).attempt a, ?_⟩
  have hrun : after = (file s).attemptAll (earlier ++ [a]) := by
    simp only [after, before, attemptAll, List.foldl_append, List.foldl_cons, List.foldl_nil]
  rw [hrun]
  exact hopened.loadRecord_attemptAll (earlier ++ [a])

/-- The second commit of erasing everything fails, and the record is gone all the same. -/
theorem attempt_allOrNothing_of_second_commit :
    let opened : FileStore := { place := .absent, values := .empty, committed := .empty }
    let save : Attempt := { call := .saveRecord ⟨"", "", "", "", none, true⟩, place := .absent }
    let erase : Attempt :=
      { call := .eraseAll, place := .absent, faults := ⟨[false, true], false⟩ }
    let before := (file opened).attemptAll [save]
    let after := (before.attempt erase).1
    (before.attempt erase).2.isOk = false ∧ after.isProvisioned.toOption = some false ∧
      AllOrNothing before after erase (before.attempt erase).2 := by
  intro opened save erase before after
  have hopen : FileStore.openAt .absent = .ok opened := rfl
  exact ⟨by decide +kernel, by decide +kernel, (attempt_allOrNothing hopen [save] erase).1⟩

end Store

end Onboarding
