import Onboarding.Json.Printer
import Onboarding.Json.Reader
import Onboarding.Store.Basic
import Onboarding.Store.Place

/-!
# The store in a file

The store is one JSON object. Changes are staged and become the file with a commit, which writes
the whole object, reads it back and compares. A commit that fails takes the staged changes back.

## Main statements

* `commit_values`: after a commit the staged values are the committed ones, whether it failed or
  not.
-/

namespace Onboarding

/-- A store with staged and committed values. -/
structure FileStore where
  place : Place
  values : Table Json
  committed : Table Json
  /-- Which of the coming commits the host lets fail. -/
  faults : Faults := .never

namespace FileStore

/-- The members of the object that a text spells; any other text spells none. -/
def valuesOf (content : Bytes) : Table Json :=
  match Json.parse? content with
  | some (.object members) => Table.ofList members
  | _ => .empty

/-- Opens the store at a place. Where nothing is yet, it is empty. -/
def openAt (place : Place) : Except StoreError FileStore :=
  match place.readText with
  | .ok text =>
    let values := valuesOf (Utf8.encode text)
    .ok { place, values, committed := values }
  | .error e =>
    if e.kind = .notFound then .ok { place, values := .empty, committed := .empty }
    else .error (.host e)

/-- The text under a key. -/
def getText (s : FileStore) (key : String) : Except StoreError (Option String) :=
  match s.values.get? key with
  | some (.text t) => .ok (some t)
  | some _ => .error (.notText key)
  | none => .ok none

/-- The flag under a key. -/
def getFlag (s : FileStore) (key : String) : Except StoreError (Option Bool) :=
  match s.values.get? key with
  | some (.bool b) => .ok (some b)
  | some _ => .error (.notFlag key)
  | none => .ok none

/-- Stages a change. -/
def change (s : FileStore) : Write → FileStore
  | .setText k v => { s with values := s.values.insert k (.text v) }
  | .setFlag k b => { s with values := s.values.insert k (.bool b) }
  | .erase k => { s with values := s.values.erase k }

/-- The text of the file for some values. -/
def fileText (values : Table Json) : String :=
  Json.pretty (.object values.entries)

/-- The error of a commit that the schedule lets fail. -/
def refused : HostError :=
  ⟨.other, some "write refused"⟩

/-- The error of a file that does not read back as it was written. -/
def unverified (written found : String) : StoreError :=
  let wrote := written.utf8ByteSize
  let read := found.utf8ByteSize
  .corrupt s!"verification failed: wrote {wrote} bytes, read {read} bytes"

/-- Writes a text and reads it back; gives the place afterwards. -/
def writeVerified (place : Place) (fails : Bool) (text : String) :
    Place × Except StoreError Unit :=
  match if fails then .error refused else place.write (Utf8.encode text) with
  | .error e => (place, .error (.host e))
  | .ok place =>
    match place.readText with
    | .error e => (place, .error (.host e))
    | .ok found =>
      if found = text then (place, .ok ()) else (place, .error (unverified text found))

/-- Makes the staged values the file, or takes them back. -/
def commit (s : FileStore) : FileStore × Except StoreError Unit :=
  let (fails, faults) := s.faults.next
  match writeVerified s.place fails (fileText s.values) with
  | (place, .ok ()) => ({ s with place, faults, committed := s.values }, .ok ())
  | (place, .error e) => ({ s with place, faults, values := s.committed }, .error e)

theorem commit_values (s : FileStore) : s.commit.1.values = s.commit.1.committed := by
  unfold commit
  split
  split <;> rfl

theorem commit_values_of_ok {s t : FileStore} (h : s.commit = (t, .ok ())) :
    t.values = s.values := by
  unfold commit at h
  split at h
  split at h
  · simp only [Prod.mk.injEq] at h; rw [← h.1]
  · simp at h

end FileStore

end Onboarding
