import Onboarding.Fault

/-!
# Keys, writes and errors of a store

A store keeps texts and flags under keys, all in one namespace. Changes are data (`Write`), so that
an operation made of several changes is a list that can be applied in whole or in part.
-/

namespace Onboarding

namespace Key

def ssid : String := "wifi_ssid"

def password : String := "wifi_pass"

def deviceId : String := "device_id"

def provisioningToken : String := "prov_token"

def bearerToken : String := "bearer_token"

/-- The flag that a whole record is stored. -/
def provisioned : String := "provisioned"

def deviceCertificate : String := "device_cert"

def authorityCertificate : String := "ca_cert"

/-- The keys of a record, the flag aside. -/
def record : List String := [ssid, password, deviceId, provisioningToken, bearerToken]

/-- The keys of both certificates. -/
def certificates : List String := [deviceCertificate, authorityCertificate]

/-- Every key of a device's data. -/
def all : List String := record ++ provisioned :: certificates

end Key

/-- Why a store could not answer or change. -/
inductive StoreError where
  /-- The flag is set and the record lacks a field. -/
  | incomplete (key : String)
  /-- A value has another type than asked for, or a written file reads back differently. -/
  | corrupt (what : String)
  | host (error : HostError)
  deriving Repr, DecidableEq

namespace StoreError

/-- The text of a store error. -/
def message : StoreError → String
  | incomplete key => "provisioning record incomplete: " ++ key ++ " missing"
  | corrupt what => "corrupt store: " ++ what
  | host e => "store I/O error: " ++ e.message

/-- A value that was asked for as a text. -/
def notText (key : String) : StoreError :=
  corrupt (key ++ " is not a string")

/-- A value that was asked for as a flag. -/
def notFlag (key : String) : StoreError :=
  corrupt (key ++ " is not a flag")

end StoreError

/-- One change of a store. -/
inductive Write where
  | setText (key value : String)
  | setFlag (key : String) (value : Bool)
  | erase (key : String)
  deriving Repr, DecidableEq

/-- The key that a change is about. -/
def Write.key : Write → String
  | setText k _ => k
  | setFlag k _ => k
  | erase k => k

end Onboarding
