import FrameTap.Frame.Record.Reader
import FrameTap.Main
import FrameTap.Network
import FrameTap.Proofs.Except
import FrameTap.Proofs.CommandLine.Draft
import FrameTap.Proofs.CommandLine.Endpoints
import FrameTap.Proofs.Printer
import FrameTap.Proofs.Printer.Stream
import FrameTap.Proofs.Listener.Run
import FrameTap.Proofs.Listener.Resume
import FrameTap.Proofs.Listener.Setup
import FrameTap.Proofs.Text.Utf8
import FrameTap.Proofs.Decimal.Numeral
import FrameTap.Proofs.Decimal.Grammar
import FrameTap.Proofs.Endpoint
import FrameTap.Proofs.Endpoint.Grammar
import FrameTap.Proofs.Endpoint.Canonical
import FrameTap.Proofs.Frame.Base64
import FrameTap.Proofs.Frame.ByteLiteral
import FrameTap.Proofs.Json.Number
import FrameTap.Proofs.Json.String
import FrameTap.Proofs.Frame.Record
import FrameTap.Proofs.Printer.Lines
import FrameTap.Proofs.Listener.Output
import FrameTap.Proofs.Printer.Lossy
import FrameTap.Proofs.CommandLine.Reading
import FrameTap.Proofs.CommandLine.Sources
import FrameTap.Proofs.Listener.Multiplex
import FrameTap.Proofs.Listener.Flushed
import FrameTap.Proofs.Endpoint.Brackets
import FrameTap.Proofs.Program
import FrameTap.Proofs.Network
import FrameTap.Proofs.Frame.ByteLiteral.Grammar
import FrameTap.Proofs.Endpoint.Parts
import FrameTap.Proofs.CommandLine.HostPort
import FrameTap.Proofs.Printer.Failure
import FrameTap.Proofs.Endpoint.Message
import FrameTap.Proofs.Endpoint.Reasons
import FrameTap.Proofs.Frame.Record.Written
import FrameTap.Proofs.Json.Grammar
import FrameTap.Proofs.Json.Skip
import FrameTap.Proofs.Frame.Record.Fields
import FrameTap.Proofs.Frame.Record.Layout
import FrameTap.Proofs.Settings
import FrameTap.Proofs.CommandLine.PollInterval
import FrameTap.Proofs.CommandLine.Order
