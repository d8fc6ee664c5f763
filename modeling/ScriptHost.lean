import ScriptHost.Argument
import ScriptHost.ArrayTypes
import ScriptHost.Bindings
import ScriptHost.Call
import ScriptHost.Clock
import ScriptHost.Command.Arguments
import ScriptHost.Command.Basic
import ScriptHost.Command.Run
import ScriptHost.Config.Basic
import ScriptHost.Config.Format
import ScriptHost.Config.Store
import ScriptHost.CustomHandlers
import ScriptHost.Entity
import ScriptHost.Environment
import ScriptHost.Event.Builtin
import ScriptHost.Event.Descriptor
import ScriptHost.Event.Marshaling
import ScriptHost.Event.Registry
import ScriptHost.EventType
import ScriptHost.Execution
import ScriptHost.Exposure
import ScriptHost.Failure
import ScriptHost.File.Access
import ScriptHost.File.Directory
import ScriptHost.File.Fault
import ScriptHost.File.Tree
import ScriptHost.Fleet
import ScriptHost.Handle
import ScriptHost.Host
import ScriptHost.HostEvent
import ScriptHost.HostFunction.Basic
import ScriptHost.HostFunction.Behaviour
import ScriptHost.HostFunction.Catalog
import ScriptHost.Interpreter
import ScriptHost.Journal
import ScriptHost.Json.Basic
import ScriptHost.Json.Printer
import ScriptHost.Json.Reader
import ScriptHost.Keyed
import ScriptHost.Listing
import ScriptHost.Listing.Write
import ScriptHost.Locality
import ScriptHost.Log.Directive
import ScriptHost.Log.Filter
import ScriptHost.Log.Logger
import ScriptHost.Log.Record
import ScriptHost.Log.Threshold
import ScriptHost.Main
import ScriptHost.Notice
import ScriptHost.Number.Binary
import ScriptHost.Number.Display
import ScriptHost.Number.Rounding
import ScriptHost.Number.Shortest
import ScriptHost.Package.Basic
import ScriptHost.Package.Directory
import ScriptHost.Package.Include
import ScriptHost.Parameter
import ScriptHost.Path.Basic
import ScriptHost.Path.Include
import ScriptHost.Pattern.Basic
import ScriptHost.Pattern.CharClass
import ScriptHost.Pattern.Element
import ScriptHost.Pattern.Height
import ScriptHost.Pattern.WellFormed
import ScriptHost.ProjectPaths
import ScriptHost.Rehearsal.Engine
import ScriptHost.Rehearsal.Memory
import ScriptHost.Rehearsal.Notation
import ScriptHost.Rehearsal.Script
import ScriptHost.Rehearsal.State
import ScriptHost.Resource.Basic
import ScriptHost.Resource.Dispatch
import ScriptHost.Resource.Phase
import ScriptHost.Resource.Start
import ScriptHost.Resource.Tick
import ScriptHost.Text.Alphanumeric
import ScriptHost.Text.Cut
import ScriptHost.Text.Lowercase
import ScriptHost.Text.Quoted
import ScriptHost.Text.Ranges
import ScriptHost.Text.Unprintable
import ScriptHost.Text.Words
import ScriptHost.Timer
import ScriptHost.Toml.Basic
import ScriptHost.Toml.Lexical
import ScriptHost.Toml.Reader
import ScriptHost.Toml.Writer
import ScriptHost.Value
import ScriptHost.Wire.Argument
import ScriptHost.Wire.Entity
import ScriptHost.Wire.Field
import ScriptHost.Wire.HostEvent
import ScriptHost.Wire.Journal
import ScriptHost.Wire.Loose
import ScriptHost.Wire.Value
import ScriptHost.Proofs.Keyed
import ScriptHost.Proofs.Journal.History
import ScriptHost.Proofs.Timer.Table
import ScriptHost.Proofs.Timer.Runs
import ScriptHost.Proofs.Timer.Creation
import ScriptHost.Proofs.Timer.Retirement
import ScriptHost.Proofs.Timer.Spacing
import ScriptHost.Proofs.Timer.Sparing
import ScriptHost.Proofs.Timer.Numbering
import ScriptHost.Proofs.Timer.Flush
import ScriptHost.Proofs.HostFunction.Effect
import ScriptHost.Proofs.Script.Moves
import ScriptHost.Proofs.HostFunction.References
import ScriptHost.Proofs.Scene.Accounts
import ScriptHost.Proofs.Script.Calls
import ScriptHost.Proofs.Resource.Compile
import ScriptHost.Proofs.Resource.DispatchCalls
import ScriptHost.Proofs.Resource.StartPath
import ScriptHost.Proofs.Resource.Stages
import ScriptHost.Proofs.Resource.Operations
import ScriptHost.Proofs.Resource.SceneMoves
import ScriptHost.Proofs.Resource.TimerEvents
import ScriptHost.Proofs.Resource.Step
import ScriptHost.Proofs.Resource.Reachable
import ScriptHost.Proofs.HostFunction.Ownership
import ScriptHost.Proofs.Resource.Settlement
import ScriptHost.Proofs.Resource.Timers
import ScriptHost.Proofs.Resource.Ticks
import ScriptHost.Proofs.Resource.HostEvents
import ScriptHost.Proofs.Resource.CustomEvents
import ScriptHost.Proofs.Event.Payload
import ScriptHost.Proofs.Event.Exactness
import ScriptHost.Proofs.Resource.Pinned
import ScriptHost.Proofs.Fleet.References
import ScriptHost.Proofs.Resource.Lifecycle
import ScriptHost.Proofs.Path.Parent
import ScriptHost.Proofs.Path.Resolution
import ScriptHost.Proofs.Package.Confinement
import ScriptHost.Proofs.Package.Reading
import ScriptHost.Proofs.Package.OpenFiles
import ScriptHost.Proofs.Exposure.Listing
import ScriptHost.Proofs.Listing.Lines
import ScriptHost.Proofs.Listing.Reading
import ScriptHost.Proofs.Number.Exactness
import ScriptHost.Proofs.Wire.Field
import ScriptHost.Proofs.Wire.Value
import ScriptHost.Proofs.Wire.HostEvent
import ScriptHost.Proofs.Fleet.Turns
import ScriptHost.Proofs.Isolation.Fleet
import ScriptHost.Proofs.Resource.StartDecided
import ScriptHost.Proofs.Event.Registry
import ScriptHost.Proofs.Exposure.Order
import ScriptHost.Proofs.HostFunction.Atomicity
import ScriptHost.Proofs.Isolation.Later
import ScriptHost.Proofs.Event.Gate
import ScriptHost.Proofs.Event.Declaration
import ScriptHost.Proofs.Resource.Registrations
import ScriptHost.Proofs.Resource.FanOut
