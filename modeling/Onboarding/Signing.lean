import Onboarding.Json.Printer
import Onboarding.Json.Skip
import Onboarding.Peers.Basic

/-!
# Signing requests and answers

A signing request is a JSON object with three texts. The answer is a structure with two parts that
each hold a text; a structure may be written as an object, where members that it does not have are
skipped, or as an array of its members in order. A member that is missing or comes twice spoils the
answer.
-/

namespace Onboarding

/-- What the device sends to have its certificate signed. -/
structure SignRequest where
  deviceId : String
  csr : String
  provisioningToken : String
  deriving Repr, DecidableEq

namespace SignRequest

/-- The request as a JSON object, its members in the order in which they are sent. -/
def json (r : SignRequest) : Json :=
  .object [("device_id", .text r.deviceId), ("csr", .text r.csr),
    ("provisioning_token", .text r.provisioningToken)]

/-- The text that is sent. -/
def text (r : SignRequest) : String :=
  String.ofList r.json.compact

end SignRequest

/-- Why an answer yields no certificates. -/
inductive SignFault where
  | status (code : Nat)
  /-- The answer is not the structure that it should be. -/
  | malformed
  | emptyCertificate
  deriving Repr, DecidableEq

/-- A fault as the error of a peer. -/
def SignFault.peerError : SignFault → PeerError
  | status code => .status code
  | malformed => .invalidResponse "malformed answer"
  | emptyCertificate => .invalidResponse "empty certificate"

namespace SignResponse

/-- How a part is read from the start of some bytes. -/
abbrev Reader (α : Type) := Bytes → Option (α × Bytes)

/-- A text. -/
def readText : Reader String := fun bs =>
  match Json.skipBlank bs with
  | 0x22 :: r => JsonText.read r
  | _ => none

/-- What follows a byte, with blanks before it. -/
def expectByte (b : UInt8) (bs : Bytes) : Option Bytes :=
  match Json.skipBlank bs with
  | c :: r => if c = b then some r else none
  | [] => none

variable {α : Type}

/-- Parts in order, the first of them without a comma in front. -/
def readParts (item : Reader α) : Nat → Bool → Reader (List α)
  | 0, _, bs => some ([], bs)
  | count + 1, isFirst, bs => do
    let (a, bs) ← item (← if isFirst then some bs else expectByte 0x2C bs)
    let (as, bs) ← readParts item count false bs
    return (a :: as, bs)

/-- The member at the start: a value for one of the names that has none yet, or one to skip. -/
def readMember (names : List String) (item : Reader α) (found : List (String × α)) :
    Reader (List (String × α)) := fun bs =>
  match Json.name bs with
  | none => none
  | some (k, bs) =>
    if k ∈ names then
      if (Entries.get? k found).isSome then none
      else (item bs).map fun (a, bs) => ((k, a) :: found, bs)
    else (Json.skip (Json.enough bs) bs).map (found, ·)

/-- At least one member, and the brace that ends them; the first argument bounds their number. -/
def readMembers (names : List String) (item : Reader α) :
    Nat → List (String × α) → Reader (List (String × α))
  | 0, _, _ => none
  | count + 1, found, bs =>
    match readMember names item found bs with
    | none => none
    | some (found, bs) =>
      match Json.skipBlank bs with
      | 0x2C :: bs => readMembers names item count found bs
      | 0x7D :: bs => some (found, bs)
      | _ => none

/-- The values of a structure whose members have the given names, in the order of the names. -/
def readStructure (names : List String) (item : Reader α) : Reader (List α) := fun bs =>
  match Json.skipBlank bs with
  | 0x5B :: bs => do
    let (values, bs) ← readParts item names.length true bs
    return (values, ← expectByte 0x5D bs)
  | 0x7B :: bs => do
    let (found, bs) ←
      match Json.skipBlank bs with
      | 0x7D :: bs => some ([], bs)
      | bs => readMembers names item bs.length [] bs
    return (← names.mapM (Entries.get? · found), bs)
  | _ => none

/-- A certificate behind its name. -/
def readContent : Reader String := fun bs =>
  match readStructure ["content"] readText bs with
  | some ([content], bs) => some (content, bs)
  | _ => none

/-- Both certificates of an answer that is well formed. -/
def read? (body : Bytes) : Option Certificates :=
  match readStructure ["certificate", "ca_certificate"] readContent body with
  | some ([device, authority], bs) =>
    if (Json.skipBlank bs).isEmpty then some { device, authority } else none
  | _ => none

/-- The certificates of an answer, if its status is a success and neither of them is empty. -/
def parse (status : Nat) (body : Bytes) : Except SignFault Certificates :=
  if status ≠ 200 ∧ status ≠ 201 then .error (.status status)
  else
    match read? body with
    | none => .error .malformed
    | some c =>
      if c.device.isEmpty ∨ c.authority.isEmpty then .error .emptyCertificate else .ok c

end SignResponse

end Onboarding
