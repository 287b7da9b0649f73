import DebugAdapter.Bench.Cast
import DebugAdapter.Bench.ChannelBench
import DebugAdapter.Bench.Clock
import DebugAdapter.Bench.ControlBench
import DebugAdapter.Bench.MonitorBench
import DebugAdapter.Bench.ProcessBench
import DebugAdapter.Bench.SessionBench
import DebugAdapter.Bench.Shell.Act
import DebugAdapter.Bench.Shell.Arithmetic
import DebugAdapter.Bench.Shell.Child
import DebugAdapter.Bench.Shell.Command
import DebugAdapter.Bench.Shell.Condition
import DebugAdapter.Bench.Shell.Expansion
import DebugAdapter.Bench.Shell.Pattern
import DebugAdapter.Bench.Shell.Printed
import DebugAdapter.Bench.Shell.Process
import DebugAdapter.Bench.Shell.Program
import DebugAdapter.Bench.Shell.Reader
import DebugAdapter.Bench.Shell.Run
import DebugAdapter.Bench.Shell.Script
import DebugAdapter.Bench.Shell.Signal
import DebugAdapter.Bench.Shell.System
import DebugAdapter.Channel.Basic
import DebugAdapter.Channel.Link
import DebugAdapter.Channel.Requests
import DebugAdapter.Channel.Spawn
import DebugAdapter.Control.Basic
import DebugAdapter.Control.Drive
import DebugAdapter.Control.Notice
import DebugAdapter.Framing.Delimited
import DebugAdapter.Framing.Headed
import DebugAdapter.Framing.Intake
import DebugAdapter.Interpreter.CallStack
import DebugAdapter.Interpreter.Code
import DebugAdapter.Interpreter.Data
import DebugAdapter.Interpreter.Message
import DebugAdapter.Interpreter.Output
import DebugAdapter.Interpreter.Script
import DebugAdapter.Interpreter.Scripted
import DebugAdapter.Interpreter.State
import DebugAdapter.Json.Basic
import DebugAdapter.Json.Decode
import DebugAdapter.Json.Document
import DebugAdapter.Json.Numeral
import DebugAdapter.Json.Relaxed
import DebugAdapter.Json.Render
import DebugAdapter.Main
import DebugAdapter.Monitor.Basic
import DebugAdapter.Monitor.Debuggee
import DebugAdapter.Number.Binary64
import DebugAdapter.Number.Decimal
import DebugAdapter.Path
import DebugAdapter.Program.Breakpoints
import DebugAdapter.Program.Snapshot
import DebugAdapter.Program.Variable
import DebugAdapter.Proofs.Channel.Completion
import DebugAdapter.Proofs.Channel.Expiry
import DebugAdapter.Proofs.Channel.Finality
import DebugAdapter.Proofs.Channel.Holding
import DebugAdapter.Proofs.Channel.Lifecycle
import DebugAdapter.Proofs.Channel.Link
import DebugAdapter.Proofs.Channel.Occasion
import DebugAdapter.Proofs.Channel.Queue
import DebugAdapter.Proofs.Channel.Requests
import DebugAdapter.Proofs.Channel.Routing
import DebugAdapter.Proofs.Channel.Settlement
import DebugAdapter.Proofs.Control.Aftermath
import DebugAdapter.Proofs.Control.Blocks
import DebugAdapter.Proofs.Control.Breakpoints
import DebugAdapter.Proofs.Control.Budget
import DebugAdapter.Proofs.Control.Continuing
import DebugAdapter.Proofs.Control.Course
import DebugAdapter.Proofs.Control.DebugEnd
import DebugAdapter.Proofs.Control.DebugRun
import DebugAdapter.Proofs.Control.DebugSteps
import DebugAdapter.Proofs.Control.EntryStop
import DebugAdapter.Proofs.Control.FailedStart
import DebugAdapter.Proofs.Control.Grounds
import DebugAdapter.Proofs.Control.Halting
import DebugAdapter.Proofs.Control.Happening
import DebugAdapter.Proofs.Control.Interpreters
import DebugAdapter.Proofs.Control.Moments
import DebugAdapter.Proofs.Control.Pushes
import DebugAdapter.Proofs.Control.Resumption
import DebugAdapter.Proofs.Control.SessionEnd
import DebugAdapter.Proofs.Control.Sessions
import DebugAdapter.Proofs.Control.Starts
import DebugAdapter.Proofs.Control.Stepping
import DebugAdapter.Proofs.Control.Succession
import DebugAdapter.Proofs.Endless
import DebugAdapter.Proofs.Framing.Delimiter
import DebugAdapter.Proofs.Framing.Draining
import DebugAdapter.Proofs.Framing.Encoding
import DebugAdapter.Proofs.Framing.Exhaustion
import DebugAdapter.Proofs.Framing.LastFrames
import DebugAdapter.Proofs.Framing.Occurrence
import DebugAdapter.Proofs.Framing.Passage
import DebugAdapter.Proofs.Framing.Reader
import DebugAdapter.Proofs.Framing.Reference
import DebugAdapter.Proofs.Framing.RoundTrip
import DebugAdapter.Proofs.Framing.Transparency
import DebugAdapter.Proofs.Interpreter.Answers
import DebugAdapter.Proofs.Interpreter.CallStack
import DebugAdapter.Proofs.Interpreter.Message
import DebugAdapter.Proofs.Interpreter.Script
import DebugAdapter.Proofs.Interpreter.Stability
import DebugAdapter.Proofs.Json.Numerals
import DebugAdapter.Proofs.Json.Ordered
import DebugAdapter.Proofs.Json.Printed
import DebugAdapter.Proofs.Json.Record
import DebugAdapter.Proofs.Json.RoundTrip
import DebugAdapter.Proofs.Json.Strings
import DebugAdapter.Proofs.Monitor.Dismissal
import DebugAdapter.Proofs.Monitor.Flow
import DebugAdapter.Proofs.Monitor.Latest
import DebugAdapter.Proofs.Monitor.Live
import DebugAdapter.Proofs.Monitor.Log
import DebugAdapter.Proofs.Monitor.Parting
import DebugAdapter.Proofs.Monitor.Progress
import DebugAdapter.Proofs.Monitor.Pushes
import DebugAdapter.Proofs.Monitor.Questions
import DebugAdapter.Proofs.Monitor.Reports
import DebugAdapter.Proofs.Monitor.Rounds
import DebugAdapter.Proofs.Monitor.Silence
import DebugAdapter.Proofs.Monitor.Stepping
import DebugAdapter.Proofs.Monitor.Transit
import DebugAdapter.Proofs.Monitor.Turn
import DebugAdapter.Proofs.Number.Reading
import DebugAdapter.Proofs.Path
import DebugAdapter.Proofs.Program.Accesses
import DebugAdapter.Proofs.Program.Breakpoints
import DebugAdapter.Proofs.Program.Frames
import DebugAdapter.Proofs.Program.Memory
import DebugAdapter.Proofs.Program.Variables
import DebugAdapter.Proofs.Protocol.Request
import DebugAdapter.Proofs.Session.Addresses
import DebugAdapter.Proofs.Session.Arrival
import DebugAdapter.Proofs.Session.Breakpoints
import DebugAdapter.Proofs.Session.Cancellation
import DebugAdapter.Proofs.Session.Delivery
import DebugAdapter.Proofs.Session.Ending
import DebugAdapter.Proofs.Session.Launches
import DebugAdapter.Proofs.Session.Memory
import DebugAdapter.Proofs.Session.Paging
import DebugAdapter.Proofs.Session.References
import DebugAdapter.Proofs.Session.Relay
import DebugAdapter.Proofs.Session.Replacement
import DebugAdapter.Proofs.Session.Responses
import DebugAdapter.Proofs.Settings
import DebugAdapter.Proofs.Table
import DebugAdapter.Proofs.Text.Base64
import DebugAdapter.Proofs.Text.Blank
import DebugAdapter.Proofs.Text.Hexadecimal
import DebugAdapter.Proofs.Text.Integer
import DebugAdapter.Proofs.Text.Utf8
import DebugAdapter.Proofs.Trace
import DebugAdapter.Protocol.Event
import DebugAdapter.Protocol.Request
import DebugAdapter.Protocol.Response
import DebugAdapter.Protocol.Types
import DebugAdapter.Report.Basic
import DebugAdapter.Report.Command
import DebugAdapter.Report.Framing
import DebugAdapter.Report.Program
import DebugAdapter.Report.Run
import DebugAdapter.Session.Address
import DebugAdapter.Session.Basic
import DebugAdapter.Session.Catalog
import DebugAdapter.Session.Handler
import DebugAdapter.Session.Handles
import DebugAdapter.Session.Serve
import DebugAdapter.Settings
import DebugAdapter.Text.Alphanumeric
import DebugAdapter.Text.Base64
import DebugAdapter.Text.Blank
import DebugAdapter.Text.Borders
import DebugAdapter.Text.Duration
import DebugAdapter.Text.Integer
import DebugAdapter.Text.Quoted
import DebugAdapter.Text.Utf8
import DebugAdapter.Text.Visible
