import Onboarding.Credential
import Onboarding.Net.Address
import Onboarding.Text.Blank
import Onboarding.Text.Cut
import Onboarding.Timings

/-!
# Settings

Fourteen named settings, each with a default, read from a look-up. `Settings.load` reads them in a
fixed order and stops at the first value that is not allowed; the error names the setting and shows
its value, except for the password.

## Main statements

* `Setting.all_complete`: the reading order lists every setting.
-/

namespace Onboarding

/-- What can be set. -/
inductive Setting where
  | apSsid
  | apPassword
  | apChannel
  | apMaxConnections
  | bindAddress
  | httpWorkers
  | backendUrl
  | brokerUri
  | probeTarget
  | certificateDirectory
  | csrPem
  | keyPem
  | eraseOnBoot
  | hostNetworks
  deriving Repr, DecidableEq

namespace Setting

/-- The name of a setting, without the prefix it has in an environment. -/
def name : Setting → String
  | apSsid => "AP_SSID"
  | apPassword => "AP_PASSWORD"
  | apChannel => "AP_CHANNEL"
  | apMaxConnections => "AP_MAX_CONNECTIONS"
  | bindAddress => "BIND_ADDR"
  | httpWorkers => "HTTP_WORKERS"
  | backendUrl => "BACKEND_URL"
  | brokerUri => "BROKER_URI"
  | probeTarget => "PROBE_TARGET"
  | certificateDirectory => "CERT_DIR"
  | csrPem => "CSR_PEM"
  | keyPem => "KEY_PEM"
  | eraseOnBoot => "ERASE_ON_BOOT"
  | hostNetworks => "HOST_NETWORKS"

/-- What stands before the names in an environment. -/
def environmentPrefix : String := "PROVISIONER_"

/-- The name of a setting in an environment. -/
def environmentName (s : Setting) : String :=
  environmentPrefix ++ s.name

/-- All settings, in reading order. -/
def all : List Setting :=
  [apSsid, apPassword, apChannel, apMaxConnections, bindAddress, httpWorkers, backendUrl, brokerUri,
    probeTarget, certificateDirectory, csrPem, keyPem, eraseOnBoot, hostNetworks]

theorem all_complete (s : Setting) : s ∈ all := by
  cases s <;> decide

end Setting

/-- A setting whose value is not allowed, and what is shown of the value. -/
structure SettingError where
  setting : Setting
  value : String
  deriving Repr, DecidableEq

/-- The text of a refused setting. -/
def SettingError.message (e : SettingError) : String :=
  "invalid value for " ++ e.setting.environmentName ++ ": " ++ Text.quoted e.value

/-- The access point that the device opens. -/
structure AccessPoint where
  ssid : String := "Device-Setup"
  /-- An open access point has an empty one. -/
  password : String := ""
  channel : UInt8 := 1
  maxConnections : UInt8 := 4
  deriving Repr, DecidableEq

/-- Whether anyone may join. -/
def AccessPoint.isOpen (a : AccessPoint) : Bool :=
  a.password.isEmpty

/-- Everything that can be set about a device. -/
structure Settings where
  accessPoint : AccessPoint := {}
  bindAddress : SocketAddress := .v4 ⟨0, 0, 0, 0⟩ 80
  httpWorkers : Nat := 2
  /-- How long a client waits for a scan, in milliseconds. -/
  scanRefreshTimeout : Nat := 30000
  timings : Timings := .standard
  backendUrl : String := "http://localhost:8000"
  brokerUri : String := "mqtts://localhost:8883"
  probeTarget : String := "https://example.com/"
  certificateDirectory : Option String := none
  csrPem : Option String := none
  keyPem : Option String := none
  eraseOnBoot : Bool := false
  hostNetworks : List String := ["HomeNet", "Office"]
  deriving Repr, DecidableEq

/-- What is set, by name. -/
abbrev Lookup := Setting → Option String

namespace Settings

/-- The value of a setting: the default if it is not set, and otherwise what `parse` makes of it.
Where `parse` refuses, it gives what is shown of the value. -/
def read {α : Type} (look : Lookup) (s : Setting) (default : α) (parse : String → Except String α) :
    Except SettingError α :=
  match look s with
  | none => .ok default
  | some v => (parse v).mapError (⟨s, ·⟩)

/-- A name that an access point can have. -/
def parseSsid (v : String) : Except String String :=
  if v.utf8ByteSize = 0 ∨ maxSsidLength < v.utf8ByteSize then .error v else .ok v

/-- A password that an access point can have. -/
def parsePassword (v : String) : Except String String :=
  let n := v.utf8ByteSize
  if n ≠ 0 ∧ (n < minPasswordLength ∨ maxPasswordLength < n) then .error redacted else .ok v

/-- A value behind blanks, refused whole where `f` has none. -/
def parseTrimmed {α : Type} (f : List Char → Option α) (v : String) : Except String α :=
  match f (Text.trim v.toList) with
  | some a => .ok a
  | none => .error v

/-- A small number. -/
def parseByte (v : String) : Except String UInt8 :=
  parseTrimmed (fun cs => (Numeral.parse? 255 cs).map (·.toUInt8)) v

/-- A channel of the 2.4 GHz band; other numbers are shown as numbers. -/
def parseChannel (v : String) : Except String UInt8 := do
  let n ← parseByte v
  if 1 ≤ n ∧ n ≤ 13 then return n else throw (String.ofList (Numeral.text n.toNat))

/-- The greatest number of workers that can be written. -/
def maxWorkers : Nat := UInt64.size - 1

/-- At least one worker. -/
def parseWorkers (v : String) : Except String Nat := do
  let n ← parseTrimmed (Numeral.parse? maxWorkers) v
  if n = 0 then throw (String.ofList (Numeral.text n)) else return n

/-- A word for yes or no, in any case; nothing is no. -/
def flag? (cs : List Char) : Option Bool :=
  let word := String.ofList (cs.map Char.toLower)
  if word ∈ ["1", "true", "yes", "on"] then some true
  else if word ∈ ["0", "false", "no", "off", ""] then some false
  else none

/-- An address without the slashes at its end. -/
def withoutSlashes (v : String) : String :=
  String.ofList (v.toList.reverse.dropWhile (· == '/')).reverse

/-- The names between commas, without blanks around them and without empty ones. -/
def names (v : String) : List String :=
  (((Text.pieces ',' v.toList).map Text.trim).filter (!·.isEmpty)).map String.ofList

/-- A text that is there only if it is not empty. -/
def nonEmpty (v : Option String) : Option String :=
  v.filter (!·.isEmpty)

/-- Reads all settings; the first one that is not allowed is the error. -/
def load (look : Lookup) : Except SettingError Settings := do
  let d : Settings := {}
  let ssid ← read look .apSsid d.accessPoint.ssid parseSsid
  let password ← read look .apPassword d.accessPoint.password parsePassword
  let channel ← read look .apChannel d.accessPoint.channel parseChannel
  let maxConnections ← read look .apMaxConnections d.accessPoint.maxConnections parseByte
  let bindAddress ← read look .bindAddress d.bindAddress (parseTrimmed SocketAddress.parse?)
  let httpWorkers ← read look .httpWorkers d.httpWorkers parseWorkers
  let eraseOnBoot ← read look .eraseOnBoot d.eraseOnBoot (parseTrimmed flag?)
  return { d with
    accessPoint := { ssid, password, channel, maxConnections }
    bindAddress
    httpWorkers
    backendUrl := ((look .backendUrl).map withoutSlashes).getD d.backendUrl
    brokerUri := (look .brokerUri).getD d.brokerUri
    probeTarget := (look .probeTarget).getD d.probeTarget
    certificateDirectory := look .certificateDirectory
    csrPem := nonEmpty (look .csrPem)
    keyPem := nonEmpty (look .keyPem)
    eraseOnBoot
    hostNetworks := ((look .hostNetworks).map names).getD d.hostNetworks }

/-- The settings of an environment: only variables with the prefix count. -/
def fromEnvironment (lookUp : String → Option String) : Except SettingError Settings :=
  load fun s => lookUp s.environmentName

end Settings

end Onboarding
