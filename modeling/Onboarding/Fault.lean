/-!
# Failures of the host

What the host answers when a file, a port or a connection cannot be used, and schedules that say
which of the coming writes fail.
-/

namespace Onboarding

/-- The class of a host failure. -/
inductive HostFailure where
  | notFound
  | permissionDenied
  | connectionRefused
  | networkUnreachable
  | addressInUse
  | addressNotAvailable
  | alreadyExists
  | notADirectory
  | isADirectory
  | invalidData
  | invalidInput
  | other
  deriving Repr, DecidableEq

/-- A short name of the class for displays. -/
def HostFailure.phrase : HostFailure → String
  | notFound => "entity not found"
  | permissionDenied => "permission denied"
  | connectionRefused => "connection refused"
  | networkUnreachable => "network unreachable"
  | addressInUse => "address in use"
  | addressNotAvailable => "address not available"
  | alreadyExists => "entity already exists"
  | notADirectory => "not a directory"
  | isADirectory => "is a directory"
  | invalidData => "invalid data"
  | invalidInput => "invalid input parameter"
  | other => "other error"

/-- A failed host call. It has a text of its own unless the host gave no more than its class. -/
structure HostError where
  kind : HostFailure
  note : Option String := none
  deriving Repr, DecidableEq

/-- The text of a failed host call. -/
def HostError.message (e : HostError) : String :=
  e.note.getD e.kind.phrase

/-- The error of a text file whose bytes are not UTF-8. -/
def HostError.notUtf8 : HostError :=
  ⟨.invalidData, some "stream did not contain valid UTF-8"⟩

/-- Which of the coming attempts fail: the listed ones in order, and after them all or none. -/
structure Faults where
  coming : List Bool := []
  afterwards : Bool := false
  deriving Repr, DecidableEq

namespace Faults

/-- No attempt fails. -/
def never : Faults := {}

/-- Every attempt fails. -/
def always : Faults := { afterwards := true }

/-- Whether the next attempt fails, and what is left of the schedule. -/
def next (f : Faults) : Bool × Faults :=
  match f.coming with
  | [] => (f.afterwards, f)
  | b :: r => (b, { f with coming := r })

@[simp] theorem next_never : never.next = (false, never) := rfl

end Faults

end Onboarding
