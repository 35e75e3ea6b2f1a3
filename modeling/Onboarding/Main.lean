import Onboarding.Boot
import Onboarding.Portal.Line

/-!
# The command line

Boots the device of this host with the settings of the environment and the store file in the home
directory. Every line of standard input is a request to the portal, and its answer is a line of
standard output; a request to a portal that is closed is answered `down`. The device takes its
rounds between the requests until the portal is open, and the store file follows its store.

The device finds no network beyond the host, so a network that it joins fails its probes and the
portal opens again.
-/

namespace Onboarding.CommandLine

/-- A device on this host. -/
abbrev HostDevice := Device HostRadio HostPeers

/-- The settings of the environment, by their names there. -/
def environment : IO (List (String × String)) :=
  Setting.all.filterMapM fun s => do
    return (← IO.getEnv s.environmentName).map (s.environmentName, ·)

/-- What a path leads to; whatever can neither be read nor made counts as a directory. -/
def placeAt (path : String) : IO Place := do
  try
    return .file (← IO.FS.readBinFile path).toList
  catch
    | .noFileOrDirectory .. => return .absent
    | _ => return .directory

/-- The certificates in a directory. -/
def certificatesIn (path : String) : IO CertificateDirectory := do
  return {
    path
    device := ← placeAt (Path.join path CertificateDirectory.deviceFile)
    authority := ← placeAt (Path.join path CertificateDirectory.authorityFile) }

/-- Where the store file is: its directory and its path. -/
structure StoreFile where
  directory : String
  path : String

/-- Brings the store file up to date after a change of the store. -/
def StoreFile.update (f : StoreFile) (before after : Store) : IO Unit := do
  match after.fileBytes with
  | some content =>
    if before.fileBytes != some content then
      IO.FS.createDirAll f.directory
      IO.FS.writeBinFile f.path ⟨content.toArray⟩
  | none => return ()

/-- Rounds that a device takes to open its portal, from whatever stage it is in. -/
def patience : Nat := 20

/-- Rounds until the portal is open, at most as many as given, with a wait after each. -/
def advance (f : StoreFile) (wait : UInt32) : Nat → HostDevice → IO HostDevice
  | 0, d => return d
  | rounds + 1, d =>
    if d.supervisor.isListening then return d
    else do
      let next := d.round
      f.update d.store next.store
      IO.sleep wait
      advance f wait rounds next

/-- Answers requests until standard input ends. -/
partial def serve (f : StoreFile) (wait : UInt32) (d : HostDevice) : IO Unit := do
  let d ← advance f wait patience d
  let line ← (← IO.getStdin).getLine
  if line.isEmpty then return ()
  let (supervisor, answer) := d.supervisor.handle (.ofLine (Text.trimEnd line.toList))
  let next := { d with supervisor }
  f.update d.store next.store
  IO.println ((answer.map Response.line).getD "down")
  (← IO.getStdout).flush
  serve f wait next

/-- Ends with an error text. -/
def failure (message : String) (code : UInt32) : IO UInt32 := do
  IO.eprintln message
  return code

/-- Boots the device and serves its portal. -/
def run (s : Settings) : IO UInt32 := do
  match Path.storeDirectory (← IO.getEnv "HOME") with
  | .error e => failure (StoreError.host e).message 1
  | .ok directory =>
    let f : StoreFile := { directory, path := Path.join directory Path.storeName }
    let place ← placeAt f.path
    let certificates ← certificatesIn (s.certificateDirectory.getD Boot.certificateDirectory)
    match FileStore.openAt place, Boot.device s place ⟨.unreachable, []⟩ certificates with
    | .ok opened, .ok d =>
      f.update (.file opened) d.store
      serve f s.timings.loopTick.toUInt32 d
      return 0
    | .error e, _ | _, .error e => failure e.message 1

end Onboarding.CommandLine

/-- Settings that are not allowed end the program with status 2. -/
def main : IO UInt32 := do
  let pairs ← Onboarding.CommandLine.environment
  match Onboarding.Settings.fromEnvironment fun name => List.lookup name pairs with
  | .ok s => Onboarding.CommandLine.run s
  | .error e => Onboarding.CommandLine.failure e.message 2
