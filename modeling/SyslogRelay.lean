import SyslogRelay.Text.Utf8
import SyslogRelay.Text.Blank
import SyslogRelay.Text.Printable
import SyslogRelay.Text.GraphemeExtend
import SyslogRelay.Text.Numeric
import SyslogRelay.Text.Quoted
import SyslogRelay.Text.Ansi
import SyslogRelay.Text.BoundedLine
import SyslogRelay.Text.ByteLine
import SyslogRelay.Text.Similarity
import SyslogRelay.Decimal.Binary64
import SyslogRelay.Severity
import SyslogRelay.Boot
import SyslogRelay.Backlog
import SyslogRelay.Ring
import SyslogRelay.IoError
import SyslogRelay.FileTree
import SyslogRelay.Record.Template
import SyslogRelay.Json.Value
import SyslogRelay.Json.Error
import SyslogRelay.Json.Lexer
import SyslogRelay.Json.Schema
import SyslogRelay.Json.Reader
import SyslogRelay.Json.Parse
import SyslogRelay.Config.Basic
import SyslogRelay.Config.Load
import SyslogRelay.Diagnostic
import SyslogRelay.Net.Address
import SyslogRelay.Net.Url
import SyslogRelay.Net.Link
import SyslogRelay.Dns.Name
import SyslogRelay.Dns.Wire
import SyslogRelay.Dns.Caa
import SyslogRelay.Dns.RecordData
import SyslogRelay.Dns.Message
import SyslogRelay.Net.Resolver
import SyslogRelay.Relay.Sink
import SyslogRelay.Relay.Forwarder
import SyslogRelay.Relay.Wire
import SyslogRelay.Relay.World
import SyslogRelay.Cli.Arguments
import SyslogRelay.Cli.Report
import SyslogRelay.Cli.Run
import SyslogRelay.Main
import SyslogRelay.Proofs.LineBounds
import SyslogRelay.Proofs.Trail
import SyslogRelay.Proofs.Frame
import SyslogRelay.Proofs.Fuel
import SyslogRelay.Proofs.Operations
import SyslogRelay.Proofs.Lifecycle
import SyslogRelay.Proofs.Conservation
import SyslogRelay.Proofs.Delivery
import SyslogRelay.Proofs.Teardown
import SyslogRelay.Proofs.Coalescing
import SyslogRelay.Proofs.RecordFields
import SyslogRelay.Proofs.Transitions
import SyslogRelay.Proofs.Provenance
import SyslogRelay.Proofs.Writes
import SyslogRelay.Proofs.SeverityProbe
import SyslogRelay.Proofs.RingRefinement
import SyslogRelay.Proofs.DrainSnapshot
import SyslogRelay.Proofs.Reentry
import SyslogRelay.Proofs.EscapeGrammar
import SyslogRelay.Proofs.RecordLength
import SyslogRelay.Proofs.FallbackRecord
import SyslogRelay.Proofs.EntryClosing
import SyslogRelay.Proofs.SendRetries
import SyslogRelay.Proofs.EventLine
import SyslogRelay.Proofs.Counters
import SyslogRelay.Proofs.BootSignal
import SyslogRelay.Proofs.PieceWrites
import SyslogRelay.Proofs.AddressAnswer
import SyslogRelay.Proofs.LineBytes
