import Onboarding.Net.Tcp
import Onboarding.Peers.Basic
import Onboarding.Store.Place

/-!
# The peers of a host

On a host the internet is probed with a connection to a target, certificates come from two files in
a directory, and a messaging session is a plain connection to a broker.
-/

namespace Onboarding

/-- A directory with issued certificates: where it is, and what stands under the two names. -/
structure CertificateDirectory where
  path : String
  device : Place
  authority : Place
  deriving Repr, DecidableEq

namespace CertificateDirectory

def deviceFile : String := "device_cert.pem"

def authorityFile : String := "ca_cert.pem"

/-- What every certificate file contains. -/
def marker : String := "-----BEGIN CERTIFICATE-----"

/-- The certificate in a file. -/
def readPem (d : CertificateDirectory) (name : String) (place : Place) : Except PeerError String :=
  match place.readText with
  | .error e =>
    if e.kind = .notFound then .error (.notConfigured "certificate file") else .error (.host e)
  | .ok pem =>
    if Text.hasWord marker.toList pem.toList then .ok pem
    else
      .error (.invalidResponse (Text.quoted (Path.join d.path name) ++ " is not a PEM certificate"))

/-- Both certificates, the device's first. -/
def issue (d : CertificateDirectory) : Except PeerError Certificates := do
  let device ← d.readPem deviceFile d.device
  let authority ← d.readPem authorityFile d.authority
  return { device, authority }

end CertificateDirectory

/-- The peers of a host and the network around it. -/
structure HostPeers where
  surroundings : Surroundings
  probeTarget : String
  directory : CertificateDirectory
  session : TcpSession

instance : Peers HostPeers where
  probe p := { peers := p, result := Reachability.check p.surroundings p.probeTarget }
  issue _ _ p := { peers := p, result := p.directory.issue }
  start _ p :=
    let (session, result) := p.session.start p.surroundings
    { peers := { p with session }, result := result.mapError .host }
  poll p := { peers := p, result := p.session.isConnected }
  stop p := { p with session := p.session.stop }

end Onboarding
