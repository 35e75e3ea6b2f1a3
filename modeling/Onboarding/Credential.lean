import Onboarding.Text.Quoted

/-!
# Credentials, device records and certificates

What a client hands over when it onboards a device, and what the device asks for in return. Lengths
are counted in bytes of UTF-8. The debug displays name everything but the secrets, which are shown
as one fixed word.

## Main statements

* `Credentials.validate_eq_ok_iff`: the lengths that a network accepts.
-/

namespace Onboarding

/-- The greatest length of a network's name. -/
def maxSsidLength : Nat := 32

/-- The greatest length of a password. -/
def maxPasswordLength : Nat := 64

/-- The least length of a password that is not empty. -/
def minPasswordLength : Nat := 8

/-- The name of a network and its password; an open network has an empty one. -/
structure Credentials where
  ssid : String
  password : String
  deriving Repr, DecidableEq, Inhabited

/-- Why no network accepts some credentials. -/
inductive CredentialError where
  | ssidEmpty
  | ssidTooLong (length limit : Nat)
  | passwordTooShort (length limit : Nat)
  | passwordTooLong (length limit : Nat)
  deriving Repr, DecidableEq

/-- The text of a refusal. -/
def CredentialError.message : CredentialError → String
  | ssidEmpty => "SSID cannot be empty"
  | ssidTooLong n limit => s!"SSID too long: {n} bytes (max {limit})"
  | passwordTooShort n limit => s!"password too short: {n} bytes (min {limit})"
  | passwordTooLong n limit => s!"password too long: {n} bytes (max {limit})"

/-- What a display shows in place of a secret. -/
def redacted : String := "<redacted>"

namespace Credentials

/-- The first fault of some credentials, the name before the password. -/
def validate (c : Credentials) : Except CredentialError Unit :=
  let name := c.ssid.utf8ByteSize
  let password := c.password.utf8ByteSize
  if name = 0 then .error .ssidEmpty
  else if maxSsidLength < name then .error (.ssidTooLong name maxSsidLength)
  else if 0 < password ∧ password < minPasswordLength then
    .error (.passwordTooShort password minPasswordLength)
  else if maxPasswordLength < password then .error (.passwordTooLong password maxPasswordLength)
  else .ok ()

/-- Whether a network accepts the credentials. -/
def isValid (c : Credentials) : Bool :=
  c.validate.isOk

/-- Credentials for a network without a password. -/
def isOpen (c : Credentials) : Bool :=
  c.password.isEmpty

/-- The debug display, which does not depend on the password. -/
def debugText (c : Credentials) : String :=
  "WifiCredentials \x7b ssid: " ++ Text.quoted c.ssid ++ ", password: " ++ Text.quoted redacted
    ++ " \x7d"

theorem validate_eq_ok_iff (c : Credentials) :
    c.validate = .ok () ↔
      (1 ≤ c.ssid.utf8ByteSize ∧ c.ssid.utf8ByteSize ≤ maxSsidLength) ∧
        (c.password.utf8ByteSize = 0 ∨
          minPasswordLength ≤ c.password.utf8ByteSize ∧
            c.password.utf8ByteSize ≤ maxPasswordLength) := by
  simp only [validate, maxSsidLength, minPasswordLength, maxPasswordLength]
  grind

end Credentials

/-- What is stored about an onboarded device. -/
structure DeviceRecord where
  ssid : String
  password : String
  deviceId : String
  provisioningToken : String
  bearerToken : Option String
  provisioned : Bool := true
  deriving Repr, DecidableEq, Inhabited

namespace DeviceRecord

/-- The credentials of the network that the device joins. -/
def credentials (r : DeviceRecord) : Credentials :=
  ⟨r.ssid, r.password⟩

/-- The debug display, which shows of the secrets only whether a bearer token is there. -/
def debugText (r : DeviceRecord) : String :=
  let secret := Text.quoted redacted
  let bearer := if r.bearerToken.isSome then "Some(" ++ secret ++ ")" else "None"
  "DeviceCredentialRecord \x7b ssid: " ++ Text.quoted r.ssid ++ ", password: " ++ secret
    ++ ", device_id: " ++ Text.quoted r.deviceId ++ ", provisioning_token: " ++ secret
    ++ ", bearer_token: " ++ bearer ++ ", provisioned: " ++ toString r.provisioned ++ " \x7d"

end DeviceRecord

/-- The certificate of a device and that of the authority that signed it. -/
structure Certificates where
  device : String
  authority : String
  deriving Repr, DecidableEq, Inhabited

end Onboarding
