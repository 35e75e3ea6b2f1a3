import Onboarding.Text.Utf8

/-!
# Request bodies

A body arrives in reads of any size and may break off with an error. `Body.receive` takes at most
one byte more than the greatest accepted length, so that a body that is too long is noticed without
being read to its end.
-/

namespace Onboarding

/-- The greatest length of an accepted body. -/
def maxBodyLength : Nat := 1024

/-- The reads that a body arrives in; a read of no bytes ends it. -/
structure Body where
  reads : List Bytes
  /-- The error after the last read, if there is one. -/
  failure : Option String := none
  deriving Repr, DecidableEq

/-- Why a body is not accepted. -/
inductive BodyError where
  | tooLarge
  | empty
  | unreadable (why : String)
  deriving Repr, DecidableEq

/-- The text of a refused body. -/
def BodyError.message : BodyError → String
  | tooLarge => "body too large"
  | empty => "empty body"
  | unreadable why => "unreadable body: " ++ why

namespace Body

/-- A body that arrives at once. -/
def whole (content : Bytes) : Body :=
  ⟨[content], none⟩

/-- Parts of at most `size` bytes; where nothing fits, an empty part stands for the rest. -/
def chunks (size : Nat) (content : Bytes) : List Bytes :=
  if content.isEmpty then []
  else if size = 0 then [[]]
  else content.take size :: chunks size (content.drop size)
termination_by content.length
decreasing_by
  have : content ≠ [] := by simpa using ‹¬content.isEmpty = true›
  have := List.length_pos_iff.2 this
  simp only [List.length_drop]
  omega

/-- A body that arrives in reads of at most `size` bytes. -/
def ofChunks (size : Nat) (content : Bytes) (failure : Option String) : Body :=
  ⟨chunks size content, failure⟩

/-- The bytes taken as long as there is room, and the error if it was reached. -/
def take (failure : Option String) : Nat → List Bytes → Bytes × Option String
  | _, [] => ([], failure)
  | room, read :: r =>
    if read.isEmpty then ([], none)
    else if room ≤ read.length then (read.take room, none)
    else
      let (taken, error) := take failure (room - read.length) r
      (read ++ taken, error)

/-- The content of a body with the given declared length, and how many bytes were taken. -/
def receive (b : Body) (declared : Option Nat) : Except BodyError Bytes × Nat :=
  if declared.any (maxBodyLength < ·) then (.error .tooLarge, 0)
  else
    let (taken, error) := take b.failure (maxBodyLength + 1) b.reads
    let result :=
      match error with
      | some why => .error (.unreadable why)
      | none =>
        if maxBodyLength < taken.length then .error .tooLarge
        else if taken.isEmpty then .error .empty
        else .ok taken
    (result, taken.length)

end Body

end Onboarding
