import GattRpc.Address
import GattRpc.Binary64.Basic
import GattRpc.Binary64.Shortest
import GattRpc.CommandLine.Basic
import GattRpc.CommandLine.Misuse
import GattRpc.CommandLine.Parser
import GattRpc.CommandLine.Usage
import GattRpc.Connection.Activity
import GattRpc.Connection.Basic
import GattRpc.Connection.Handler
import GattRpc.Connection.Task
import GattRpc.Correlator
import GattRpc.Envelope.Inbound
import GattRpc.Envelope.Request
import GattRpc.Envelope.Response
import GattRpc.Failure
import GattRpc.Files
import GattRpc.Frame
import GattRpc.Gatt
import GattRpc.Json.Basic
import GattRpc.Json.Fault
import GattRpc.Json.Parser
import GattRpc.Json.Printer
import GattRpc.Json.Scanner
import GattRpc.Json.Typed
import GattRpc.Json.TypedReader
import GattRpc.Main
import GattRpc.Poll
import GattRpc.Program
import GattRpc.Proofs.Connection.Alike
import GattRpc.Proofs.Connection.AllOrNothing
import GattRpc.Proofs.Connection.Answers
import GattRpc.Proofs.Connection.Callbacks
import GattRpc.Proofs.Connection.Closing
import GattRpc.Proofs.Connection.Course
import GattRpc.Proofs.Connection.Deeds
import GattRpc.Proofs.Connection.Endings
import GattRpc.Proofs.Connection.Events
import GattRpc.Proofs.Connection.Expiry
import GattRpc.Proofs.Connection.Failures
import GattRpc.Proofs.Connection.Fates
import GattRpc.Proofs.Connection.Guarantees
import GattRpc.Proofs.Connection.Handlers
import GattRpc.Proofs.Connection.HangUp
import GattRpc.Proofs.Connection.Inbox
import GattRpc.Proofs.Connection.Junk
import GattRpc.Proofs.Connection.Ledger
import GattRpc.Proofs.Connection.LinkCalls
import GattRpc.Proofs.Connection.Order
import GattRpc.Proofs.Connection.Reactions
import GattRpc.Proofs.Connection.Receipts
import GattRpc.Proofs.Connection.Replies
import GattRpc.Proofs.Connection.Runs
import GattRpc.Proofs.Connection.Signals
import GattRpc.Proofs.Connection.Snapshot
import GattRpc.Proofs.Connection.Steady
import GattRpc.Proofs.Connection.Transfers
import GattRpc.Proofs.Connection.Turns
import GattRpc.Proofs.Connection.Waiting
import GattRpc.Proofs.Conservation
import GattRpc.Proofs.Envelope.Records
import GattRpc.Proofs.Frame.Containment
import GattRpc.Proofs.Frame.RoundTrip
import GattRpc.Proofs.Frame.Split
import GattRpc.Proofs.Json.Fields
import GattRpc.Proofs.Json.Integers
import GattRpc.Proofs.Json.RoundTrip
import GattRpc.Proofs.Json.Tokens
import GattRpc.Proofs.Session.Answers
import GattRpc.Proofs.Session.Closing
import GattRpc.Proofs.Session.Completion
import GattRpc.Proofs.Session.Execution
import GattRpc.Proofs.Session.Expiry
import GattRpc.Proofs.Session.Order
import GattRpc.Proofs.Session.Outcomes
import GattRpc.Proofs.Session.Reception
import GattRpc.Proofs.Session.Returns
import GattRpc.Proofs.Session.Runs
import GattRpc.Proofs.Session.Settlement
import GattRpc.Proofs.Session.Unheeded
import GattRpc.Proofs.Table
import GattRpc.Proofs.Text.Encoding
import GattRpc.Session.Answering
import GattRpc.Session.Client
import GattRpc.Session.Engine
import GattRpc.Session.EventChannel
import GattRpc.Session.Run
import GattRpc.Session.Script
import GattRpc.Settings.Basic
import GattRpc.Settings.Reader
import GattRpc.Settings.Storage
import GattRpc.Settings.Writer
import GattRpc.Shape
import GattRpc.Text.Debug
import GattRpc.Text.Decimal
import GattRpc.Text.Hexadecimal
import GattRpc.Text.Similarity
import GattRpc.Text.Utf8
import GattRpc.Text.Visible
import GattRpc.Toml.Basic
import GattRpc.Toml.Parser
import GattRpc.Toml.Quoted
import GattRpc.Toml.Scanner
import GattRpc.Toml.Typed
import GattRpc.Proofs.Json.Integers
import GattRpc.Proofs.Envelope.Classification
import GattRpc.Proofs.Envelope.RoundTrip
import GattRpc.Proofs.Settings.Running
import GattRpc.Proofs.Settings.Saving
import GattRpc.Proofs.Confluence
import GattRpc.Proofs.Connection.Connecting
import GattRpc.Proofs.Session.Connecting
import GattRpc.Proofs.Program.Execution
import GattRpc.Proofs.Program.Ending
