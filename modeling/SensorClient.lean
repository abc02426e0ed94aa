import SensorClient.Control.Endpoint
import SensorClient.Control.Script
import SensorClient.Host.Files
import SensorClient.Main
import SensorClient.Proofs.Command.BatchSizes
import SensorClient.Proofs.Command.Batching
import SensorClient.Proofs.Command.Durations
import SensorClient.Proofs.Command.HandBack
import SensorClient.Proofs.Command.Printing
import SensorClient.Proofs.Command.Samples
import SensorClient.Proofs.Command.Streaming
import SensorClient.Proofs.Command.Waiting
import SensorClient.Proofs.Control.Narrowing
import SensorClient.Proofs.Double.Numbers
import SensorClient.Proofs.Sample.Draining
import SensorClient.Proofs.Sample.ExactReads
import SensorClient.Proofs.Sample.Handshake
import SensorClient.Proofs.Sample.Ownership
import SensorClient.Proofs.Sample.Xyz
import SensorClient.Proofs.Session.Decoding
import SensorClient.Proofs.Session.Framing
import SensorClient.Proofs.Session.HangUp
import SensorClient.Proofs.Session.Lifetime
import SensorClient.Proofs.Session.LocalError
import SensorClient.Proofs.Session.Mirror
import SensorClient.Proofs.Session.Promptness
import SensorClient.Proofs.Session.Released
import SensorClient.Proofs.Session.Replies
import SensorClient.Proofs.Session.Selection
import SensorClient.Proofs.Session.Settings
import SensorClient.Proofs.Session.States
import SensorClient.Proofs.Session.Switching
import SensorClient.Proofs.Wire.ErrorReplies
import SensorClient.Proofs.Wire.Interface
import SensorClient.Proofs.Wire.ReplyTypes
import SensorClient.Proofs.Wire.Variants
import SensorClient.Sample.Daemon
import SensorClient.Session.Operation
import SensorClient.Wire.Script
