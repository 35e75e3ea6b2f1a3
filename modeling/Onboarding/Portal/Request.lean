import Onboarding.Credential
import Onboarding.Json.Reader
import Onboarding.Portal.Body
import Onboarding.Text.Blank
import Onboarding.Text.Cut

/-!
# Provision requests

The body of a submission is a JSON object with four texts. Everything that is wrong with a request
is a `RequestError`, which knows its HTTP status and the JSON body that a client is answered.

## Main statements

* `ProvisionRequest.parse_eq_invalidJson_iff`: a body is no JSON exactly when it does not parse.
-/

namespace Onboarding

/-- A field that a submission must have. -/
inductive RequiredField where
  | ssid
  | password
  | deviceId
  | provisioningToken
  deriving Repr, DecidableEq

namespace RequiredField

/-- The name of a field. -/
def name : RequiredField → String
  | ssid => "ssid"
  | password => "password"
  | deviceId => "device_id"
  | provisioningToken => "provisioning_token"

/-- All fields, in the order in which they are reported. -/
def all : List RequiredField := [ssid, password, deviceId, provisioningToken]

end RequiredField

/-- Why a submission is refused. -/
inductive RequestError where
  /-- The body could not be had. -/
  | invalidRequest (message : String)
  | invalidJson
  | missingFields (fields : List RequiredField)
  /-- The store did not take the record. -/
  | saveFailed
  /-- The session has accepted a submission before. -/
  | closed
  deriving Repr, DecidableEq

namespace RequestError

/-- The HTTP status of a refusal. -/
def status : RequestError → Nat
  | saveFailed => 500
  | closed => 503
  | _ => 400

/-- The JSON body of a refusal. -/
def body : RequestError → Json
  | invalidRequest message =>
    .ofMembers [("error", .text "invalid_request"), ("message", .text message)]
  | invalidJson => .ofMembers [("error", .text "invalid_json")]
  | missingFields fields =>
    .ofMembers [("error", .text "missing_fields"),
      ("missing_fields", .array (fields.map fun f => .text f.name))]
  | saveFailed => .ofMembers [("error", .text "save_failed")]
  | closed => .ofMembers [("error", .text "provisioning_closed")]

/-- The text of a refusal. -/
def message : RequestError → String
  | invalidRequest message => "invalid request: " ++ message
  | invalidJson => "invalid JSON"
  | missingFields fields => "missing fields: " ++ ", ".intercalate (fields.map RequiredField.name)
  | saveFailed => "failed to save credentials"
  | closed => "provisioning already submitted"

/-- A refused body as a refused request. -/
def ofBody (e : BodyError) : RequestError :=
  invalidRequest e.message

end RequestError

/-- What a client submits. -/
structure ProvisionRequest where
  ssid : String
  password : String
  deviceId : String
  provisioningToken : String
  deriving Repr, DecidableEq

namespace ProvisionRequest

/-- The text of a field; a value of another type counts as absent. -/
def field? (v : Json) (f : RequiredField) : Option String :=
  (v.get? f.name).bind Json.text?

/-- The fields that are absent. -/
def missing (v : Json) : List RequiredField :=
  RequiredField.all.filter fun f => (field? v f).isNone

/-- The submission that a JSON value is. -/
def ofJson (v : Json) : Except RequestError ProvisionRequest :=
  match field? v .ssid, field? v .password, field? v .deviceId, field? v .provisioningToken with
  | some ssid, some password, some deviceId, some provisioningToken =>
    .ok { ssid, password, deviceId, provisioningToken }
  | _, _, _, _ => .error (.missingFields (missing v))

/-- The submission that a body holds. -/
def parse (body : Bytes) : Except RequestError ProvisionRequest :=
  match Json.parse? body with
  | some v => ofJson v
  | none => .error .invalidJson

/-- The credentials of a submission. -/
def credentials (r : ProvisionRequest) : Credentials :=
  ⟨r.ssid, r.password⟩

/-- The record of a submission that came with a bearer token or without. -/
def record (r : ProvisionRequest) (bearerToken : Option String) : DeviceRecord where
  ssid := r.ssid
  password := r.password
  deviceId := r.deviceId
  provisioningToken := r.provisioningToken
  bearerToken := bearerToken

/-- The debug display, which leaves the secrets out. -/
def debugText (r : ProvisionRequest) : String :=
  "ProvisionRequest \x7b ssid: " ++ Text.quoted r.ssid ++ ", device_id: "
    ++ Text.quoted r.deviceId ++ ", .. \x7d"

theorem parse_eq_invalidJson_iff (body : Bytes) :
    parse body = .error .invalidJson ↔ Json.parse? body = none := by
  unfold parse
  split
  · rename_i v h
    rw [h]
    unfold ofJson
    split <;> simp
  · simp_all

end ProvisionRequest

namespace Bearer

/-- The scheme with the blank behind it. -/
def scheme : List Char := "bearer ".toList

/-- What an authorization header holds behind its scheme, which may be in any case or absent. -/
def credentialPart (header : List Char) : List Char :=
  let cs := Text.trimStart header
  if (cs.take scheme.length).map Char.toLower = scheme then cs.drop scheme.length else cs

/-- The token of an authorization header; a blank token counts as absent. -/
def token? (header : String) : Option String :=
  match Text.trim (credentialPart header.toList) with
  | [] => none
  | cs => some (String.ofList cs)

end Bearer

namespace Query

/-- Whether a query asks for a fresh scan: one of its pairs has the name `refresh` and the value 1
or true, the latter in any case. -/
def refreshRequested (query : List Char) : Bool :=
  (Text.pieces '&' query).any fun pair =>
    match Text.cutAt '=' pair with
    | some (name, value) =>
      name == "refresh".toList
        && (value.map Char.toLower == "true".toList || value == ['1'])
    | none => false

end Query

end Onboarding
