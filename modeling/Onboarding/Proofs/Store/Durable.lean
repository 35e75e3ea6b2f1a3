import Onboarding.Proofs.Json.Objects
import Onboarding.Proofs.Store.Refusals

/-!
# What a store file keeps

A store in a file stages changes in memory, and a commit makes them the file or takes them back. So
what a store opened at the same place finds is what the first one had right after the last of its
commits that succeeded, also where one call commits twice and only the first commit succeeds.

Every call is a list of steps, changes that are staged and commits (`StoreCall.steps`), and a
`Journal` follows a store step by step, together with the store as of its last commit that
succeeded.

## Main results

* `FileStore.valuesOf_fileText`: a written file holds the values that it was written for.
* `Journal.perform_eq`: a call does its steps up to the first that fails.
* `Journal.Durable.step`: the invariant, step by step.
* `Journal.reopened_eq_kept`: a store that is opened again answers as the first one did right after
  its last commit that succeeded.
-/

namespace Onboarding

/-- Only texts and flags. -/
def Table.IsPlain (t : Table Json) : Prop :=
  ∀ e ∈ t.entries, e.2.IsPlain

namespace Table.IsPlain

theorem empty : IsPlain .empty := by
  intro e h
  simp [Table.empty] at h

theorem insert {t : Table Json} (h : t.IsPlain) (k : String) {v : Json} (hv : v.IsPlain) :
    IsPlain (t.insert k v) := by
  intro e he
  rcases Entries.mem_insert he with rfl | he
  · exact hv
  · exact h e he

theorem erase {t : Table Json} (h : t.IsPlain) (k : String) : IsPlain (t.erase k) := by
  intro e he
  exact h e (List.mem_filter.mp he).1

theorem ofList {l : List (String × Json)} (h : ∀ e ∈ l, e.2.IsPlain) : IsPlain (.ofList l) := by
  have hfold : ∀ t : List (String × Json), (∀ e ∈ t, e.2.IsPlain) →
      ∀ e ∈ l.foldl (fun t e => Entries.insert e.1 e.2 t) t, e.2.IsPlain := by
    induction l with
    | nil => exact fun t ht => ht
    | cons m l ih =>
        intro t ht
        refine ih (fun e he => h e (List.mem_cons_of_mem _ he)) _ ?_
        intro e he
        rcases Entries.mem_insert he with rfl | he
        · exact h m List.mem_cons_self
        · exact ht e he
  exact hfold [] (by simp)

end Table.IsPlain

/-- A place with nothing yet, or with a file that holds one object of texts and flags. -/
def Place.HoldsPlain : Place → Prop
  | absent => True
  | file content =>
    ∃ members, Json.parse? content = some (.object members) ∧ ∀ m ∈ members, m.2.IsPlain
  | directory | obstructed | sink => False

namespace FileStore

/-! ### Opening and committing -/

/-- **A written file holds the values that it was written for.** -/
theorem valuesOf_fileText {t : Table Json} (h : t.IsPlain) :
    valuesOf (Utf8.encode (fileText t)) = t := by
  rw [valuesOf, fileText, Json.parse?_pretty h, Json.ofMembers, Entries.ofList_of_sorted t.sorted]
  exact t.ofList_entries

/-- A store that is opened where a text can be read holds the values of that text. -/
theorem openAt_of_readText {place : Place} {text : String} (h : place.readText = .ok text) :
    openAt place =
      .ok { place, values := valuesOf (Utf8.encode text)
            committed := valuesOf (Utf8.encode text) } := by
  rw [openAt, h]

/-- A store that was opened finds the same again, and holds texts and flags if its place does. -/
theorem openAt_eq {place : Place} {s : FileStore} (h : openAt place = .ok s)
    (hplace : place.HoldsPlain) :
    s.values.IsPlain ∧ s = { place, values := s.values, committed := s.values } := by
  cases place with
  | directory | obstructed | sink => exact hplace.elim
  | absent =>
      cases h
      exact ⟨.empty, rfl⟩
  | file content =>
      obtain ⟨members, hparse, hplain⟩ := hplace
      rw [openAt, Place.readText, Place.read] at h
      dsimp only at h
      split at h
      · rename_i text heq
        split at heq
        · rename_i hdecode
          cases heq
          cases h
          dsimp only
          rw [Utf8.encode_of_decode hdecode, valuesOf, hparse]
          exact ⟨.ofList hplain, rfl⟩
        · simp at heq
      · rename_i e heq
        split at heq
        · simp at heq
        · cases heq
          simp [HostError.notUtf8] at h

/-- A write that does not verify leaves the place as it was. -/
theorem place_of_writeVerified_error {place place' : Place} {fails : Bool} {text : String}
    {e : StoreError} (h : writeVerified place fails text = (place', .error e)) :
    place' = place := by
  cases fails with
  | true =>
      rw [writeVerified, if_pos rfl] at h
      exact (Prod.mk.inj h).1.symm
  | false =>
      cases place with
      | absent =>
          have hwritable : Place.absent.IsWritable := trivial
          rw [writeVerified_of_isWritable hwritable] at h
          simp at h
      | file content =>
          have hwritable : (Place.file content).IsWritable := trivial
          rw [writeVerified_of_isWritable hwritable] at h
          simp at h
      | directory | obstructed =>
          rw [writeVerified, if_neg Bool.false_ne_true] at h
          exact (Prod.mk.inj h).1.symm
      | sink =>
          rw [writeVerified, if_neg Bool.false_ne_true] at h
          dsimp only [Place.write] at h
          split at h
          · exact (Prod.mk.inj h).1.symm
          · split at h <;> exact (Prod.mk.inj h).1.symm

/-- A write that verifies reads back as it was written. -/
theorem readText_of_writeVerified_ok {place place' : Place} {fails : Bool} {text : String}
    (h : writeVerified place fails text = (place', .ok ())) : place'.readText = .ok text := by
  rw [writeVerified] at h
  split at h
  · simp at h
  · rename_i written _
    split at h
    · simp at h
    · rename_i found hread
      split at h
      · rename_i heq
        obtain ⟨rfl, -⟩ := Prod.mk.inj h
        rw [hread, heq]
      · simp at h

/-- A commit that succeeds makes the staged values the file. -/
theorem commit_of_ok {s t : FileStore} (h : s.commit = (t, .ok ())) :
    t.values = s.values ∧ t.committed = s.values ∧
      t.place.readText = .ok (fileText s.values) := by
  rw [commit] at h
  dsimp only at h
  split at h
  · rename_i place hwrite
    obtain ⟨rfl, -⟩ := Prod.mk.inj h
    exact ⟨rfl, rfl, readText_of_writeVerified_ok hwrite⟩
  · simp at h

/-- A commit that fails takes the staged changes back and leaves the file as it was. -/
theorem commit_of_error {s t : FileStore} {e : StoreError} (h : s.commit = (t, .error e)) :
    t.values = s.committed ∧ t.committed = s.committed ∧ t.place = s.place := by
  rw [commit] at h
  dsimp only at h
  split at h
  · simp at h
  · rename_i place e' hwrite
    obtain ⟨rfl, -⟩ := Prod.mk.inj h
    exact ⟨rfl, rfl, place_of_writeVerified_error hwrite⟩

end FileStore

/-- A call that can change a store. -/
inductive StoreCall where
  /-- A text is set, a flag is set, or a key is erased. -/
  | change (w : Write)
  | commit
  | saveRecord (r : DeviceRecord)
  | clearRecord
  | saveCertificates (c : Certificates)
  | eraseAll

/-- One thing that a call does to a store in a file. -/
inductive FileStep where
  | stage (w : Write)
  | commit

namespace StoreCall

/-- What a call does to a store. -/
def perform : StoreCall → Store → Store × Except StoreError Unit
  | change w, s => s.apply w
  | commit, s => s.commit
  | saveRecord r, s => s.saveRecord r
  | clearRecord, s => s.clearRecord
  | saveCertificates c, s => s.saveCertificates c
  | eraseAll, s => s.eraseAll

/-- Staging changes and committing them. -/
def committing (ws : List Write) : List FileStep :=
  ws.map .stage ++ [.commit]

/-- The steps of a call. -/
def steps : StoreCall → List FileStep
  | change w => [.stage w]
  | commit => [.commit]
  | saveRecord r => committing (Store.saveWrites r)
  | clearRecord => committing Store.clearWrites
  | saveCertificates c => committing (Store.certificateWrites c)
  | eraseAll => committing Store.clearWrites ++ committing (Key.certificates.map .erase)

end StoreCall

/-- A store in a file, and the store as it was right after its last commit that succeeded, or as it
was opened. -/
structure Journal where
  now : FileStore
  kept : FileStore

namespace Journal

/-- A store that was just opened. -/
def opened (s : FileStore) : Journal :=
  ⟨s, s⟩

/-- Makes one step. -/
def step (j : Journal) : FileStep → Journal × Except StoreError Unit
  | .stage w => ({ j with now := j.now.change w }, .ok ())
  | .commit =>
    match j.now.commit with
    | (s, .ok ()) => (⟨s, s⟩, .ok ())
    | (s, .error e) => ({ j with now := s }, .error e)

/-- Makes steps one after the other and stops at the first that fails. -/
def stepAll : List FileStep → Journal → Journal × Except StoreError Unit
  | [], j => (j, .ok ())
  | t :: ts, j =>
    match j.step t with
    | (j, .ok ()) => stepAll ts j
    | (j, .error e) => (j, .error e)

/-- The journal after a call. -/
def call (j : Journal) (c : StoreCall) : Journal :=
  (j.stepAll c.steps).1

/-- The journal after calls in their order. -/
def run (j : Journal) (calls : List StoreCall) : Journal :=
  calls.foldl call j

/-! ### Calls and their steps -/

/-- Steps in two parts are made as a whole. -/
theorem stepAll_append (ts us : List FileStep) (j : Journal) :
    j.stepAll (ts ++ us) =
      match j.stepAll ts with
      | (j, .ok ()) => j.stepAll us
      | (j, .error e) => (j, .error e) := by
  induction ts generalizing j with
  | nil => rfl
  | cons t ts ih =>
      simp only [List.cons_append, stepAll]
      split
      · exact ih _
      · rfl

/-- Staging changes never fails. -/
theorem stepAll_stage (ws : List Write) (j : Journal) :
    j.stepAll (ws.map .stage) = ({ j with now := j.now.changeAll ws }, .ok ()) := by
  induction ws generalizing j with
  | nil => rfl
  | cons w ws ih =>
      rw [List.map_cons, stepAll, step]
      exact ih _

/-- A commit of the journal is a commit of its store. -/
theorem commit_eq (j : Journal) :
    (Store.file j.now).commit = (.file (j.step .commit).1.now, (j.step .commit).2) := by
  rw [Store.commit, step]
  rcases j.now.commit with ⟨s, _ | _⟩ <;> rfl

/-- An operation on a store stages its changes and commits them. -/
theorem perform_committing (ws : List Write) (j : Journal) :
    (Store.file j.now).perform ws =
      (.file (j.stepAll (StoreCall.committing ws)).1.now,
        (j.stepAll (StoreCall.committing ws)).2) := by
  rw [Store.perform, FileStore.applyAll_eq, StoreCall.committing, stepAll_append, stepAll_stage]
  dsimp only
  have hlast : ∀ k : Journal, k.stepAll [.commit] = k.step .commit := by
    intro k
    rw [stepAll]
    split
    · rename_i h
      rw [h]
      rfl
    · rename_i h
      rw [h]
  rw [hlast]
  exact commit_eq { j with now := j.now.changeAll ws }

/-- **A call does its steps up to the first that fails.** -/
theorem perform_eq (c : StoreCall) (j : Journal) :
    c.perform (.file j.now) = (.file (j.stepAll c.steps).1.now, (j.stepAll c.steps).2) := by
  cases c with
  | change w => rfl
  | commit =>
      rw [StoreCall.perform, commit_eq, StoreCall.steps, stepAll]
      split <;> rename_i h <;> rw [h]
      rfl
  | saveRecord r => exact perform_committing (Store.saveWrites r) j
  | clearRecord => exact perform_committing Store.clearWrites j
  | saveCertificates c => exact perform_committing (Store.certificateWrites c) j
  | eraseAll =>
      rw [StoreCall.perform, Store.eraseAll, Store.clearRecord, perform_committing,
        StoreCall.steps, stepAll_append]
      cases h : j.stepAll (StoreCall.committing Store.clearWrites) with
      | mk k result =>
          cases result with
          | ok _ => exact perform_committing (Key.certificates.map .erase) k
          | error e => rfl

/-- A journal follows its store through any calls. -/
theorem run_now (calls : List StoreCall) (j : Journal) :
    calls.foldl (fun s c => (c.perform s).1) (.file j.now) = .file (j.run calls).now := by
  induction calls generalizing j with
  | nil => rfl
  | cons c calls ih =>
      rw [List.foldl_cons, perform_eq]
      exact ih (j.call c)

/-! ### What the file holds -/

/-- The file holds the values of the last commit that succeeded, which are texts and flags as the
staged ones are. -/
structure Durable (j : Journal) : Prop where
  plain : j.now.values.IsPlain
  plain_committed : j.now.committed.IsPlain
  reads : FileStore.openAt j.now.place =
    .ok { place := j.now.place, values := j.now.committed, committed := j.now.committed }
  kept_eq : j.kept.values = j.now.committed

/-- A store that was just opened holds what its file holds. -/
theorem durable_opened {place : Place} {s : FileStore} (hs : FileStore.openAt place = .ok s)
    (hplace : place.HoldsPlain) (faults : Faults) : (opened { s with faults }).Durable := by
  obtain ⟨hplain, heq⟩ := FileStore.openAt_eq hs hplace
  have hcommitted : s.committed = s.values := congrArg FileStore.committed heq
  have hplace' : s.place = place := congrArg FileStore.place heq
  refine ⟨hplain, ?_, ?_, hcommitted.symm⟩
  · exact hcommitted ▸ hplain
  · change FileStore.openAt s.place =
      .ok { place := s.place, values := s.committed, committed := s.committed }
    rw [hplace', hcommitted, hs]
    exact congrArg Except.ok heq

/-- Staging a change leaves the file alone, and stages a text or a flag. -/
theorem Durable.stage {j : Journal} (h : j.Durable) (w : Write) :
    ({ j with now := j.now.change w } : Journal).Durable := by
  have heq := j.now.change_eq w
  have hplain : (j.now.change w).values.IsPlain := by
    cases w with
    | setText k v => exact h.plain.insert k trivial
    | setFlag k b => exact h.plain.insert k trivial
    | erase k => exact h.plain.erase k
  refine ⟨hplain, ?_, ?_, ?_⟩
  · rw [heq]
    exact h.plain_committed
  · rw [heq]
    exact h.reads
  · rw [heq]
    exact h.kept_eq

/-- **Each step keeps the file in line** with the last commit that succeeded. -/
theorem Durable.step {j : Journal} (h : j.Durable) (t : FileStep) : (j.step t).1.Durable := by
  cases t with
  | stage w => exact h.stage w
  | commit =>
      rw [Journal.step]
      cases hcommit : j.now.commit with
      | mk s result =>
          cases result with
          | ok _ =>
              obtain ⟨hvalues, hcommitted, hread⟩ := FileStore.commit_of_ok hcommit
              have hopen := FileStore.openAt_of_readText hread
              rw [FileStore.valuesOf_fileText h.plain] at hopen
              refine ⟨hvalues ▸ h.plain, hcommitted ▸ h.plain, ?_, ?_⟩
              · rw [hcommitted]
                exact hopen
              · exact hvalues.trans hcommitted.symm
          | error e =>
              obtain ⟨hvalues, hcommitted, hplace⟩ := FileStore.commit_of_error hcommit
              refine ⟨hvalues ▸ h.plain_committed, hcommitted ▸ h.plain_committed, ?_, ?_⟩
              · rw [hcommitted, hplace]
                exact h.reads
              · exact h.kept_eq.trans hcommitted.symm

theorem Durable.stepAll {j : Journal} (h : j.Durable) (ts : List FileStep) :
    (j.stepAll ts).1.Durable := by
  induction ts generalizing j with
  | nil => exact h
  | cons t ts ih =>
      have hstep := h.step t
      rw [Journal.stepAll]
      split
      · rename_i k heq
        rw [heq] at hstep
        exact ih hstep
      · rename_i k e heq
        rwa [heq] at hstep

theorem Durable.run {j : Journal} (h : j.Durable) (calls : List StoreCall) :
    (j.run calls).Durable := by
  induction calls generalizing j with
  | nil => exact h
  | cons c calls ih => exact ih (h.stepAll c.steps)

/-- **A store that is opened again answers as the first one did right after its last commit that
succeeded**, whatever was called and whichever commits failed. -/
theorem reopened_eq_kept {place : Place} (hplace : place.HoldsPlain) {s : FileStore}
    (hs : FileStore.openAt place = .ok s) (faults : Faults) (calls : List StoreCall) :
    let j := (opened { s with faults }).run calls
    calls.foldl (fun s c => (c.perform s).1) (.file { s with faults }) = .file j.now ∧
      ∃ u, FileStore.openAt j.now.place = .ok u ∧
        ∀ key, u.getText key = j.kept.getText key ∧ u.getFlag key = j.kept.getFlag key := by
  intro j
  have hdurable : j.Durable := (durable_opened hs hplace faults).run calls
  refine ⟨run_now calls (opened { s with faults }), _, hdurable.reads, ?_⟩
  intro key
  constructor
  · rw [FileStore.getText, FileStore.getText, hdurable.kept_eq]
  · rw [FileStore.getFlag, FileStore.getFlag, hdurable.kept_eq]

/-- A text with a backslash and a line break takes the place of an old one. It is still there after
a commit that fails. -/
theorem reopened_eq_kept_of_refused :
    let t := Table.empty.insert "k" (.text "old")
    let place := Place.file (Utf8.encode (FileStore.fileText t))
    let s : FileStore := { place, values := t, committed := t }
    let calls : List StoreCall :=
      [.change (.setText "k" "\\\n"), .commit, .change (.setText "k" "lost"),
        .change (.setFlag "f" true), .commit]
    let j := (opened { s with faults := ⟨[false], true⟩ }).run calls
    s.getText "k" = .ok (some "old") ∧
    ∃ u, FileStore.openAt j.now.place = .ok u ∧ u.getText "k" = .ok (some "\\\n") ∧
      u.getFlag "f" = .ok none := by
  intro t place s calls j
  have hplain : t.IsPlain := .insert .empty "k" trivial
  have hplace : place.HoldsPlain := ⟨_, Json.parse?_pretty hplain, Table.IsPlain.ofList hplain⟩
  have hread : place.readText = .ok (FileStore.fileText t) := by
    simp only [place, Place.readText, Place.read, Utf8.decode_encode]
  have hs : FileStore.openAt place = .ok s := by
    rw [FileStore.openAt_of_readText hread, FileStore.valuesOf_fileText hplain]
  obtain ⟨-, u, hu, hget⟩ := reopened_eq_kept hplace hs ⟨[false], true⟩ calls
  have htext : j.kept.getText "k" = .ok (some "\\\n") := by decide +kernel
  have hflag : j.kept.getFlag "f" = .ok none := by decide +kernel
  have hbefore : s.getText "k" = .ok (some "old") := by decide +kernel
  refine ⟨hbefore, u, ?_, ?_, ?_⟩
  · simpa only [j] using hu
  · rw [(hget "k").1, htext]
  · rw [(hget "f").2, hflag]

end Journal

end Onboarding
