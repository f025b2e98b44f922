import FunctionHost.Bytes
import FunctionHost.Callback
import FunctionHost.Capability.Desk
import FunctionHost.Capability.HttpClient
import FunctionHost.Capability.KeyValue
import FunctionHost.Capability.Log
import FunctionHost.Capability.Probe
import FunctionHost.Capability.Router
import FunctionHost.Cli.Arguments
import FunctionHost.Cli.Failure
import FunctionHost.Cli.Program
import FunctionHost.Cli.Switch
import FunctionHost.Context
import FunctionHost.Context.Bench
import FunctionHost.Dictionary
import FunctionHost.Digest
import FunctionHost.Document.Shape
import FunctionHost.Error
import FunctionHost.Files
import FunctionHost.Folder
import FunctionHost.Guest.Activity
import FunctionHost.Guest.Alone
import FunctionHost.Guest.Bare
import FunctionHost.Guest.Bench
import FunctionHost.Guest.Compile
import FunctionHost.Guest.Engine
import FunctionHost.Guest.HostCall
import FunctionHost.Guest.Instance
import FunctionHost.Guest.Linker
import FunctionHost.Guest.Region
import FunctionHost.Guest.State
import FunctionHost.Guest.Wasi
import FunctionHost.Http.Base64
import FunctionHost.Http.Document
import FunctionHost.Http.Exchange
import FunctionHost.Http.Host
import FunctionHost.Http.Message
import FunctionHost.Http.Percent
import FunctionHost.Http.Punycode
import FunctionHost.Http.Url
import FunctionHost.Journal
import FunctionHost.Journal.Filter
import FunctionHost.Journal.Line
import FunctionHost.Json.Reader
import FunctionHost.Json.Value
import FunctionHost.Main
import FunctionHost.Packed
import FunctionHost.Pool.Basic
import FunctionHost.Pool.Checkout
import FunctionHost.Pool.Drain
import FunctionHost.Pool.Fill
import FunctionHost.Pool.Permits
import FunctionHost.Pool.Restore
import FunctionHost.Pool.Session
import FunctionHost.Proofs.Capability.Failures
import FunctionHost.Proofs.Capability.KeyValue
import FunctionHost.Proofs.Capability.Mapping
import FunctionHost.Proofs.Capability.Outcome
import FunctionHost.Proofs.Capability.Responses
import FunctionHost.Proofs.Cli.Invocation
import FunctionHost.Proofs.Cli.Loading
import FunctionHost.Proofs.Context.Guarded
import FunctionHost.Proofs.Context.Instants
import FunctionHost.Proofs.Context.Waits
import FunctionHost.Proofs.Dictionary
import FunctionHost.Proofs.Guest.Answer
import FunctionHost.Proofs.Guest.Bodies
import FunctionHost.Proofs.Guest.Context
import FunctionHost.Proofs.Guest.Course
import FunctionHost.Proofs.Guest.Deadline
import FunctionHost.Proofs.Guest.Ending
import FunctionHost.Proofs.Guest.Entry
import FunctionHost.Proofs.Guest.ErrorDocument
import FunctionHost.Proofs.Guest.Frame
import FunctionHost.Proofs.Guest.Fuel
import FunctionHost.Proofs.Guest.Interruption
import FunctionHost.Proofs.Guest.Limits
import FunctionHost.Proofs.Guest.Nested
import FunctionHost.Proofs.Guest.Poison
import FunctionHost.Proofs.Guest.Request
import FunctionHost.Proofs.Guest.Room
import FunctionHost.Proofs.Guest.Running
import FunctionHost.Proofs.Guest.Suspended
import FunctionHost.Proofs.Guest.Update
import FunctionHost.Proofs.Http.Base64
import FunctionHost.Proofs.Http.Document
import FunctionHost.Proofs.Http.Exchange
import FunctionHost.Proofs.Http.Message
import FunctionHost.Proofs.Json.Documents
import FunctionHost.Proofs.Json.Overlay
import FunctionHost.Proofs.Json.Parsing
import FunctionHost.Proofs.Json.Reading
import FunctionHost.Proofs.Numbered
import FunctionHost.Proofs.Packed
import FunctionHost.Proofs.Pool.Accounts
import FunctionHost.Proofs.Pool.Arrivals
import FunctionHost.Proofs.Pool.Bodies
import FunctionHost.Proofs.Pool.BrokenOff
import FunctionHost.Proofs.Pool.Clear
import FunctionHost.Proofs.Pool.Custody
import FunctionHost.Proofs.Pool.Drained
import FunctionHost.Proofs.Pool.Fates
import FunctionHost.Proofs.Pool.Faults
import FunctionHost.Proofs.Pool.Filled
import FunctionHost.Proofs.Pool.Fuel
import FunctionHost.Proofs.Pool.Holdings
import FunctionHost.Proofs.Pool.Line
import FunctionHost.Proofs.Pool.Lives
import FunctionHost.Proofs.Pool.Moves
import FunctionHost.Proofs.Pool.Numbers
import FunctionHost.Proofs.Pool.Owned
import FunctionHost.Proofs.Pool.Permits
import FunctionHost.Proofs.Pool.Places
import FunctionHost.Proofs.Pool.Poison
import FunctionHost.Proofs.Pool.Queue
import FunctionHost.Proofs.Pool.Room
import FunctionHost.Proofs.Pool.Run
import FunctionHost.Proofs.Pool.Running
import FunctionHost.Proofs.Schedule
import FunctionHost.Proofs.Server.Acts
import FunctionHost.Proofs.Server.Alone
import FunctionHost.Proofs.Server.Attribution
import FunctionHost.Proofs.Server.Clear
import FunctionHost.Proofs.Server.InTurn
import FunctionHost.Proofs.Server.Listing
import FunctionHost.Proofs.Server.Loading
import FunctionHost.Proofs.Server.Numbers
import FunctionHost.Proofs.Server.Places
import FunctionHost.Proofs.Server.Provision
import FunctionHost.Proofs.Server.Publication
import FunctionHost.Proofs.Server.Requests
import FunctionHost.Proofs.Server.Retry
import FunctionHost.Proofs.Server.Running
import FunctionHost.Proofs.Server.Shutdown
import FunctionHost.Proofs.Server.Site
import FunctionHost.Proofs.Server.Steps
import FunctionHost.Proofs.Server.Storing
import FunctionHost.Proofs.Server.Traffic
import FunctionHost.Proofs.Server.Turns
import FunctionHost.Proofs.Server.Undisturbed
import FunctionHost.Proofs.Server.Update
import FunctionHost.Proofs.Settings.Documents
import FunctionHost.Proofs.Settings.Loading
import FunctionHost.Proofs.Settings.Validation
import FunctionHost.Proofs.Text
import FunctionHost.Proofs.Wasm.Fuel
import FunctionHost.Proofs.Wasm.Memory
import FunctionHost.Schedule
import FunctionHost.Server.Basic
import FunctionHost.Server.Plan
import FunctionHost.Server.Registry
import FunctionHost.Server.Session
import FunctionHost.Server.Work
import FunctionHost.Session
import FunctionHost.Settings.File
import FunctionHost.Settings.Host
import FunctionHost.Settings.Text
import FunctionHost.Standing
import FunctionHost.Text.Blank
import FunctionHost.Text.Decimal
import FunctionHost.Text.Order
import FunctionHost.Text.Quoted
import FunctionHost.Text.Unprintable
import FunctionHost.Text.Utf8
import FunctionHost.Toml.Reader
import FunctionHost.Toml.Scalar
import FunctionHost.Toml.Shape
import FunctionHost.Toml.Value
import FunctionHost.Wasm.Binary.Operators
import FunctionHost.Wasm.Binary.Reader
import FunctionHost.Wasm.Binary.Sections
import FunctionHost.Wasm.Code
import FunctionHost.Wasm.Instantiation
import FunctionHost.Wasm.Machine
import FunctionHost.Wasm.Memory
import FunctionHost.Wasm.Module
import FunctionHost.Wasm.Numeric
import FunctionHost.Wasm.Opcode
import FunctionHost.Wasm.Operator
import FunctionHost.Wasm.Store
import FunctionHost.Wasm.Text.Code
import FunctionHost.Wasm.Text.Literal
import FunctionHost.Wasm.Text.Module
import FunctionHost.Wasm.Text.Tree
import FunctionHost.Wasm.Trap
import FunctionHost.Wasm.Types
import FunctionHost.Wasm.Validation
import FunctionHost.World
