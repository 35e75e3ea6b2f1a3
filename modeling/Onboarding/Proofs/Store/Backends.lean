import Onboarding.Proofs.Store.Atomic

/-!
# Both backends answer alike

A store in memory changes at once, a store in a file changes when it is committed, and the two keep
their values in different types. Whoever asks and calls a store cannot tell which of them it is, as
long as nothing fails: what a store answers is a matter of its look-ups, and a call that succeeds
does the same to the look-ups of either. That two stores are alike (`Store.Alike`) is therefore the
relation that holds at the beginning and goes on to hold.

## Main results

* `Store.Alike.ask`: stores that are alike answer a question alike.
* `Store.Alike.call`: a call that succeeds on both leaves them alike.
* `Store.Spared.noneFails`: where the commits succeed no call fails.
* `Store.answers_memory_eq_file`: an empty memory and a file that was not there give the same
  answers, errors included.
-/

namespace Onboarding

/-- What a store can be asked without changing it. -/
inductive StoreQuestion where
  | text (key : String)
  | flag (key : String)
  | isProvisioned
  | record
  | bearerToken
  | certificates
  | hasCertificates

/-- What a store answers to a question or a call. -/
inductive StoreAnswer where
  | done (result : Except StoreError Unit)
  | text (result : Except StoreError (Option String))
  | flag (result : Except StoreError (Option Bool))
  | truth (result : Except StoreError Bool)
  | record (result : Except StoreError (Option DeviceRecord))
  | certificates (result : Except StoreError (Option Certificates))
  deriving DecidableEq

/-- A question or a call. -/
inductive StoreRequest where
  | ask (question : StoreQuestion)
  | call (call : StoreCall)

/-- How often a call commits when it succeeds. -/
def StoreCall.commitCount : StoreCall → Nat
  | change _ => 0
  | commit | saveRecord _ | clearRecord | saveCertificates _ => 1
  | eraseAll => 2

/-- How often requests commit when they succeed. -/
def StoreRequest.commitCount : List StoreRequest → Nat
  | [] => 0
  | ask _ :: rest => commitCount rest
  | call c :: rest => c.commitCount + commitCount rest

/-- The next `n` attempts do not fail. -/
def Faults.Spares : Nat → Faults → Prop
  | 0, _ => True
  | n + 1, f => f.next.1 = false ∧ f.next.2.Spares n

namespace Store

/-- The answer to a question. -/
def ask (s : Store) : StoreQuestion → StoreAnswer
  | .text key => .text (s.getText key)
  | .flag key => .flag (s.getFlag key)
  | .isProvisioned => .truth s.isProvisioned
  | .record => .record s.loadRecord
  | .bearerToken => .text s.loadBearerToken
  | .certificates => .certificates s.loadCertificates
  | .hasCertificates => .truth s.hasCertificates

/-- The answers to requests that are made one after the other. -/
def answers : Store → List StoreRequest → List StoreAnswer
  | _, [] => []
  | s, .ask q :: rest => s.ask q :: s.answers rest
  | s, .call c :: rest => .done (c.perform s).2 :: (c.perform s).1.answers rest

/-- None of the calls among requests fails. -/
def NoneFails : Store → List StoreRequest → Prop
  | _, [] => True
  | s, .ask _ :: rest => s.NoneFails rest
  | s, .call c :: rest => (c.perform s).2 = .ok () ∧ (c.perform s).1.NoneFails rest

/-- Stores in which the same stands under every key. -/
def Alike (s t : Store) : Prop :=
  ∀ k, s.get? k = t.get? k

namespace Alike

variable {s t s' t' : Store}

theorem getText (h : s.Alike t) (key : String) : s.getText key = t.getText key := by
  rw [getText_eq_of_get?, getText_eq_of_get?, h key]

theorem getFlag (h : s.Alike t) (key : String) : s.getFlag key = t.getFlag key := by
  rw [getFlag_eq_of_get?, getFlag_eq_of_get?, h key]

/-- **Stores that are alike answer a question alike**, also where the answer is an error. -/
theorem ask (h : s.Alike t) (q : StoreQuestion) : s.ask q = t.ask q := by
  cases q with
  | text key => rw [Store.ask, Store.ask, h.getText key]
  | flag key => rw [Store.ask, Store.ask, h.getFlag key]
  | isProvisioned => rw [Store.ask, Store.ask, isProvisioned_congr (h _)]
  | record => rw [Store.ask, Store.ask, loadRecord_congr fun k _ => h k]
  | bearerToken => rw [Store.ask, Store.ask, loadBearerToken_congr (h _)]
  | certificates => rw [Store.ask, Store.ask, loadCertificates_congr fun k _ => h k]
  | hasCertificates =>
      rw [Store.ask, Store.ask, hasCertificates, hasCertificates,
        loadCertificates_congr fun k _ => h k]

/-- An operation that succeeds on both leaves them alike. -/
theorem perform (h : s.Alike t) {ws : List Write} (hs : s.perform ws = (s', .ok ()))
    (ht : t.perform ws = (t', .ok ())) : s'.Alike t' := by
  intro k
  rw [get?_perform hs, get?_perform ht, h k]

end Alike

/-- A call that erases everything and succeeds has cleared the record first. -/
theorem eraseAll_eq_ok {s t : Store} (h : s.eraseAll = (t, .ok ())) :
    ∃ u, s.clearRecord = (u, .ok ()) ∧ u.perform (Key.certificates.map .erase) = (t, .ok ()) := by
  rw [eraseAll] at h
  split at h
  · rename_i u hclear
    exact ⟨u, hclear, h⟩
  · simp at h

/-- **A call that succeeds on both leaves them alike.** -/
theorem Alike.call {s t s' t' : Store} (h : s.Alike t) {c : StoreCall}
    (hs : c.perform s = (s', .ok ())) (ht : c.perform t = (t', .ok ())) : s'.Alike t' := by
  cases c with
  | change w =>
      intro k
      rw [get?_apply hs, get?_apply ht, h k]
  | commit =>
      intro k
      rw [get?_commit hs, get?_commit ht, h k]
  | saveRecord | clearRecord | saveCertificates => exact h.perform hs ht
  | eraseAll =>
      obtain ⟨u, hclear, hrest⟩ := eraseAll_eq_ok hs
      obtain ⟨u', hclear', hrest'⟩ := eraseAll_eq_ok ht
      exact (h.perform hclear hclear').perform hrest hrest'

/-- **Stores that are alike answer alike** to requests of which none fails. -/
theorem Alike.answers {s t : Store} (h : s.Alike t) {requests : List StoreRequest}
    (hs : s.NoneFails requests) (ht : t.NoneFails requests) :
    s.answers requests = t.answers requests := by
  induction requests generalizing s t with
  | nil => rfl
  | cons r rest ih =>
      cases r with
      | ask q => rw [Store.answers, Store.answers, h.ask q, ih h hs ht]
      | call c =>
          obtain ⟨hdone, hs⟩ := hs
          obtain ⟨hdone', ht⟩ := ht
          have hafter := h.call (Prod.ext rfl hdone) (Prod.ext rfl hdone')
          rw [Store.answers, Store.answers, hdone, hdone', ih hafter hs ht]

/-! ### Commits that succeed -/

/-- Memory that refuses nothing, or a file in a place that can be written to, of which the next `n`
commits succeed. -/
def Spared (n : Nat) : Store → Prop
  | memory m => m.faults = .never
  | file f => f.faults.Spares n ∧ f.place.IsWritable

variable {n : Nat} {s : Store}

/-- **An operation whose commit succeeds succeeds**, and uses that commit up. -/
theorem Spared.perform (h : s.Spared (n + 1)) (ws : List Write) :
    (s.perform ws).2 = .ok () ∧ (s.perform ws).1.Spared n := by
  cases s with
  | memory m =>
      obtain ⟨t, ht, hnever⟩ := perform_of_never h ws
      rw [ht]
      exact ⟨rfl, hnever⟩
  | file f =>
      obtain ⟨⟨hnext, hspares⟩, hplace⟩ := h
      obtain ⟨g, hg, hfaults, hafter⟩ := perform_of_isWritable hnext hplace ws
      rw [hg]
      refine ⟨rfl, ?_, hafter⟩
      rw [hfaults]
      exact hspares

/-- A single change is not committed. -/
theorem Spared.apply (h : s.Spared n) (w : Write) :
    (s.apply w).2 = .ok () ∧ (s.apply w).1.Spared n := by
  cases s with
  | memory m =>
      obtain ⟨t, ht, hnever⟩ := applyAll_of_never h [w]
      rw [applyAll] at ht
      split at ht
      · rename_i u heq
        obtain ⟨rfl, -⟩ := Prod.mk.inj ht
        rw [heq]
        exact ⟨rfl, hnever⟩
      · simp at ht
  | file f =>
      refine ⟨rfl, ?_⟩
      rw [Store.apply, f.change_eq w]
      exact h

/-- **A call whose commits succeed succeeds**, and uses them up. -/
theorem Spared.call {c : StoreCall} (h : s.Spared (c.commitCount + n)) :
    (c.perform s).2 = .ok () ∧ (c.perform s).1.Spared n := by
  rw [Nat.add_comm] at h
  cases c with
  | change w => exact h.apply w
  | commit => exact h.perform []
  | saveRecord r => exact h.perform (saveWrites r)
  | clearRecord => exact h.perform clearWrites
  | saveCertificates c => exact h.perform (certificateWrites c)
  | eraseAll =>
      obtain ⟨hclear, hrest⟩ := h.perform clearWrites
      have hcleared : s.clearRecord = ((s.perform clearWrites).1, .ok ()) := Prod.ext rfl hclear
      rw [StoreCall.perform, eraseAll, hcleared]
      exact hrest.perform (Key.certificates.map .erase)

/-- **Where the commits succeed no call fails.** -/
theorem Spared.noneFails {requests : List StoreRequest}
    (h : s.Spared (StoreRequest.commitCount requests)) : s.NoneFails requests := by
  induction requests generalizing s with
  | nil => trivial
  | cons r rest ih =>
      cases r with
      | ask q => exact ih h
      | call c => exact ⟨h.call.1, ih h.call.2⟩

/-- **An empty memory and a file that was not there give the same answers**, errors included, to
any requests, as long as the commits of the file succeed. -/
theorem answers_memory_eq_file {f : FileStore} (hopen : FileStore.openAt .absent = .ok f)
    (faults : Faults) (requests : List StoreRequest)
    (hcommits : faults.Spares (StoreRequest.commitCount requests)) :
    (memory .empty).answers requests = (file { f with faults }).answers requests := by
  obtain rfl := Except.ok.inj hopen
  have hmemory : (memory .empty).Spared (StoreRequest.commitCount requests) := rfl
  have hfile : (file { place := .absent, values := .empty, committed := .empty, faults }).Spared
      (StoreRequest.commitCount requests) := ⟨hcommits, trivial⟩
  have halike : (memory .empty).Alike
      (file { place := .absent, values := .empty, committed := .empty, faults }) := fun _ => rfl
  exact halike.answers hmemory.noneFails hfile.noneFails

/-- A flag stands where a text belongs, and the other way round; a file of which the third commit
would fail is committed twice. -/
theorem answers_memory_eq_file_of_mistyped :
    let f : FileStore := { place := .absent, values := .empty, committed := .empty }
    let faults : Faults := ⟨[false, false], true⟩
    let requests : List StoreRequest :=
      [.call (.change (.setFlag Key.provisioned true)), .ask .record,
        .call (.change (.setFlag Key.ssid true)), .ask .record,
        .call (.change (.setText Key.provisioned "")), .ask .isProvisioned,
        .call .eraseAll, .ask .record]
    (memory .empty).answers requests =
        [.done (.ok ()), .record (.error (.incomplete Key.ssid)),
          .done (.ok ()), .record (.error (.notText Key.ssid)),
          .done (.ok ()), .truth (.error (.notFlag Key.provisioned)),
          .done (.ok ()), .record (.ok none)] ∧
      (memory .empty).answers requests = (file { f with faults }).answers requests := by
  intro f faults requests
  have hcommits : faults.Spares (StoreRequest.commitCount requests) := ⟨rfl, rfl, trivial⟩
  exact ⟨by decide +kernel, answers_memory_eq_file rfl faults requests hcommits⟩

end Store

end Onboarding
