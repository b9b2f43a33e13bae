import ConfidentialIoT.Lib.Prog
import ConfidentialIoT.Lib.Embed
import ConfidentialIoT.Lib.Keeps
import ConfidentialIoT.Lib.Sure
import ConfidentialIoT.Lib.History
import ConfidentialIoT.Lib.Bytes
import ConfidentialIoT.Lib.Dict
import ConfidentialIoT.Lib.Memory
import ConfidentialIoT.Tee.Crypto
import ConfidentialIoT.Tee.Api
import ConfidentialIoT.Tee.Bench
import ConfidentialIoT.TrustedApp.Session
import ConfidentialIoT.TrustedApp.Identity
import ConfidentialIoT.TrustedApp.Handshake
import ConfidentialIoT.TrustedApp.Preimages
import ConfidentialIoT.TrustedApp.Sensor
import ConfidentialIoT.TrustedApp.Entry
import ConfidentialIoT.TrustedApp.Reading
import ConfidentialIoT.TrustedApp.Gates
import ConfidentialIoT.TrustedApp.Scripted
import ConfidentialIoT.TrustedApp.Evidence
import ConfidentialIoT.TrustedApp.Snapshot
import ConfidentialIoT.TrustedApp.SealNonce
import ConfidentialIoT.TrustedApp.Sequence
import ConfidentialIoT.Lib.Pool
import ConfidentialIoT.Lib.Completion
import ConfidentialIoT.Lib.Following
import ConfidentialIoT.Lib.Part
import ConfidentialIoT.Tee.Storage
import ConfidentialIoT.TrustedApp.Pinning
import ConfidentialIoT.TrustedApp.Sealed
import ConfidentialIoT.Server.Text
import ConfidentialIoT.Server.Quote
import ConfidentialIoT.Server.Marshal
import ConfidentialIoT.Server.Truncation
import ConfidentialIoT.Host.Report
import ConfidentialIoT.Host.EdgeDevice
import ConfidentialIoT.Sensor.Frames
import ConfidentialIoT.Sensor.Daemon
import ConfidentialIoT.Sensor.Latch
import ConfidentialIoT.Sensor.Link
import ConfidentialIoT.Sensor.Invocation
import ConfidentialIoT.Sensor.Interleaving
import ConfidentialIoT.Sensor.Buffers
import ConfidentialIoT.Server.Registry
import ConfidentialIoT.Server.Enrolment
import ConfidentialIoT.Server.ResetTool
import ConfidentialIoT.Server.Persistence
import ConfidentialIoT.Server.FailedSave
import ConfidentialIoT.Server.State
import ConfidentialIoT.Server.Verifier
import ConfidentialIoT.Server.Desk
import ConfidentialIoT.Server.Link
import ConfidentialIoT.Server.Challenges
import ConfidentialIoT.Server.Genuine
import ConfidentialIoT.Server.Handler
import ConfidentialIoT.Server.Traffic
import ConfidentialIoT.Server.Replies
import ConfidentialIoT.Server.Exchange
import ConfidentialIoT.Server.Acknowledged
import ConfidentialIoT.Server.Verdicts
import ConfidentialIoT.Server.AntiReplay
import ConfidentialIoT.Host.Uplink
import ConfidentialIoT.Host.Expiry
import ConfidentialIoT.Host.Rehearsal
import ConfidentialIoT.Lib.Twin
import ConfidentialIoT.TrustedApp.Leakage
import ConfidentialIoT.Lib.Eval
import ConfidentialIoT.Server.Commit
import ConfidentialIoT.Server.Maxima
import ConfidentialIoT.Server.Endpoint
import ConfidentialIoT.Server.Attestable
import ConfidentialIoT.Server.Baseline
import ConfidentialIoT.Sensor.LyingSensor
import ConfidentialIoT.Sensor.Codecs
import ConfidentialIoT.Host.SealedMessage
import ConfidentialIoT.Server.Collect
import ConfidentialIoT.Host.Backlog
import ConfidentialIoT.Server.IdentityKey
import ConfidentialIoT.Lib.Weighted
import ConfidentialIoT.Server.Processing
import ConfidentialIoT.Server.Json
import ConfidentialIoT.Server.SealedSample
import ConfidentialIoT.Host.Agreement
import ConfidentialIoT.Host.Binding
import ConfidentialIoT.Host.Talk
import ConfidentialIoT.Host.Pairing
import ConfidentialIoT.Host.Provenance
