import Onboarding.Main
import Onboarding.Peers.Scripted
import Onboarding.Proofs.Portal.Protocol
import Onboarding.Radio.Scripted
import Onboarding.Signing
import Onboarding.Proofs.Device.Moves
import Onboarding.Proofs.Supervisor.Requests
import Onboarding.Proofs.Device.Run
import Onboarding.Proofs.Device.Joining
import Onboarding.Proofs.Device.Verified
import Onboarding.Proofs.Json.Objects
import Onboarding.Proofs.Store.Durable
import Onboarding.Proofs.Store.Atomic
import Onboarding.Proofs.Store.Interrupted
import Onboarding.Proofs.Device.Listening
import Onboarding.Proofs.Supervisor.Agreement
import Onboarding.Proofs.Logs
import Onboarding.Proofs.Device.History
import Onboarding.Proofs.Device.Messaging
import Onboarding.Proofs.Device.Retries
import Onboarding.Proofs.Device.Identity
import Onboarding.Proofs.Radio.Logged
import Onboarding.Proofs.Supervisor.Discipline
import Onboarding.Proofs.Device.Stations
import Onboarding.Proofs.Store.Backends
import Onboarding.Proofs.Supervisor.Settling
import Onboarding.Proofs.Device.Submission
import Onboarding.Proofs.Device.Rejection
import Onboarding.Proofs.Radio.Diary
import Onboarding.Proofs.Portal.Scans
import Onboarding.Proofs.Portal.Discretion
import Onboarding.Proofs.Supervisor.Links
import Onboarding.Proofs.Supervisor.Tuning
import Onboarding.Proofs.Json.Grammar
import Onboarding.Proofs.Json.Lexemes
import Onboarding.Proofs.Portal.Bodies
import Onboarding.Proofs.Json.Documents
import Onboarding.Proofs.Portal.Submissions
import Onboarding.Proofs.Radio.Survey
import Onboarding.Proofs.Supervisor.Snapshots
import Onboarding.Proofs.Supervisor.Opening
import Onboarding.Proofs.Text.Trimming
import Onboarding.Proofs.Text.Boundaries
import Onboarding.Proofs.Portal.Bearer
import Onboarding.Proofs.Json.Members
import Onboarding.Proofs.Json.Encoding
import Onboarding.Proofs.Store.Opened
import Onboarding.Proofs.Store.Effects
import Onboarding.Proofs.Store.Canonical
import Onboarding.Proofs.Json.Syntax
import Onboarding.Proofs.Signing.Requests
import Onboarding.Proofs.Net.Sessions
import Onboarding.Proofs.Json.Fields
import Onboarding.Proofs.Signing.Structures
import Onboarding.Proofs.Signing.Answers
import Onboarding.Proofs.Number.Numerals
import Onboarding.Proofs.Net.Addresses
import Onboarding.Proofs.Text.Cuts
import Onboarding.Proofs.Settings.Faults
import Onboarding.Proofs.Settings.Admission
import Onboarding.Proofs.Settings.Secrecy
import Onboarding.Proofs.Net.Authorities
