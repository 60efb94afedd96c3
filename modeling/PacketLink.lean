import PacketLink.Action
import PacketLink.Bytes
import PacketLink.Command
import PacketLink.CommandLine.Option
import PacketLink.CommandLine.Parse
import PacketLink.CommandLine.Token
import PacketLink.Duration
import PacketLink.Files.Path
import PacketLink.Files.Standard
import PacketLink.Files.Store
import PacketLink.Files.Tree
import PacketLink.FlipBit
import PacketLink.Framing.Echo
import PacketLink.Framing.Error
import PacketLink.Framing.Packet
import PacketLink.Framing.Reassembler
import PacketLink.Framing.Stream
import PacketLink.Framing.SubHeader
import PacketLink.Hid.Deviceless
import PacketLink.Hid.Error
import PacketLink.Hid.Interface
import PacketLink.Hid.Link
import PacketLink.Hid.Simulated
import PacketLink.Host.Command
import PacketLink.Host.Config
import PacketLink.Host.ConfigFile
import PacketLink.Host.Error
import PacketLink.Host.Exchange
import PacketLink.Host.HexPayload
import PacketLink.Host.Run
import PacketLink.Host.UsbId
import PacketLink.Json.ReservedCommands
import PacketLink.Json.Syntax
import PacketLink.Link.Error
import PacketLink.Link.Monitored
import PacketLink.Link.Scripted
import PacketLink.Link.Trace
import PacketLink.Link.World
import PacketLink.Log
import PacketLink.Main
import PacketLink.Message
import PacketLink.Monitor.Decoded
import PacketLink.Monitor.Printer
import PacketLink.Program.Failure
import PacketLink.Program.Run
import PacketLink.Proofs.Framing.Parsing
import PacketLink.Proofs.Framing.Reassembly
import PacketLink.Proofs.Framing.Streams
import PacketLink.Session.Basic
import PacketLink.Session.Config
import PacketLink.Session.Error
import PacketLink.Session.Exchange
import PacketLink.Session.Handshake
import PacketLink.Session.Receive
import PacketLink.Text.Ansi
import PacketLink.Text.DebugText
import PacketLink.Text.Decimal
import PacketLink.Text.Hex
import PacketLink.Text.Utf16
import PacketLink.Throughput.Benchmark
import PacketLink.Throughput.Counter
import PacketLink.Toml.Blank
import PacketLink.Toml.Datetime
import PacketLink.Toml.Document
import PacketLink.Toml.Node
import PacketLink.Toml.Number
import PacketLink.Toml.Quoted
import PacketLink.Toml.Reader
import PacketLink.Toml.Value
import PacketLink.Proofs.Framing.Deliveries
import PacketLink.Proofs.Framing.RoundTrip
import PacketLink.Proofs.Link.Cooperation
import PacketLink.Proofs.Session.Sending
import PacketLink.Proofs.Session.Receiving
import PacketLink.Proofs.Session.Answers
import PacketLink.Proofs.Session.Requests
import PacketLink.Proofs.Session.Conclusions
import PacketLink.Proofs.Link.Outcomes
import PacketLink.Proofs.Session.Transmissions
import PacketLink.Proofs.Session.Transcripts
import PacketLink.Proofs.Session.Calls
import PacketLink.Proofs.Session.FlipBits
import PacketLink.Proofs.Session.Alternation
import PacketLink.Proofs.Session.Losses
import PacketLink.Proofs.Link.Replays
import PacketLink.Proofs.Session.Handshakes
import PacketLink.Proofs.Framing.Resynchronization
import PacketLink.Proofs.Link.CallSequences
import PacketLink.Proofs.Session.HandshakeFailures
import PacketLink.Proofs.Link.Services
import PacketLink.Proofs.Session.Listening
import PacketLink.Proofs.Session.Queues
import PacketLink.Proofs.Session.Transparency
import PacketLink.Proofs.Framing.LostPackets
import PacketLink.Proofs.Link.Lateness
import PacketLink.Proofs.Session.Cancellation
import PacketLink.Proofs.Session.Lifecycle
import PacketLink.Proofs.Session.HandshakeCancellation
import PacketLink.Proofs.Link.Monitoring
import PacketLink.Proofs.Session.Plans
import PacketLink.Proofs.Session.Leftovers
import PacketLink.Proofs.Session.Conversations
import PacketLink.Proofs.Session.Acknowledgments
import PacketLink.Proofs.Checked.Fault
import PacketLink.Proofs.Checked.Buffer
import PacketLink.Proofs.Checked.Framing
import PacketLink.Proofs.Checked.Printing
import PacketLink.Proofs.Checked.Attempts
import PacketLink.Proofs.Checked.Exchanges
import PacketLink.Proofs.Session.Malformed
import PacketLink.Proofs.Session.Robustness
import PacketLink.Proofs.Framing.Canonical
import PacketLink.Proofs.Hid.Ledger
import PacketLink.Proofs.Hid.Loopback
import PacketLink.Proofs.Session.Variants
import PacketLink.Proofs.Session.TimeoutPolicies
import PacketLink.Proofs.Session.RetryCounter
import PacketLink.Proofs.Monitor.Agreement
import PacketLink.Proofs.Link.Approximations
import PacketLink.Proofs.Link.Budgets
import PacketLink.Proofs.Session.RoundLimits
import PacketLink.Proofs.Session.Traffic
import PacketLink.Proofs.Link.Delays
import PacketLink.Proofs.Session.Schedules
import PacketLink.Proofs.Hid.Closings
import PacketLink.Proofs.Host.Commands
import PacketLink.Proofs.Host.Release
import PacketLink.Proofs.Link.Courses
import PacketLink.Proofs.Text.Ascii
import PacketLink.Proofs.Text.CodeUnits
import PacketLink.Proofs.Throughput.Accounting
import PacketLink.Proofs.Throughput.Benchmarks
import PacketLink.Proofs.Toml.Numerals
import PacketLink.Proofs.Toml.Settings
import PacketLink.Proofs.Toml.Leaves
import PacketLink.Proofs.Files.Trees
import PacketLink.Proofs.Host.StoredSettings
import PacketLink.Proofs.Program.SavedSettings
import PacketLink.Proofs.Throughput.Windows
import PacketLink.Proofs.Hid.Draining
import PacketLink.Proofs.Hid.Selection
import PacketLink.Proofs.Text.HexDigits
import PacketLink.Proofs.Host.Payloads
import PacketLink.Proofs.Framing.Representation
