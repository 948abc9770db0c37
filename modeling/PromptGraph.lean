import PromptGraph.Chain.Dump
import PromptGraph.Chain.Graph
import PromptGraph.Chain.Reading
import PromptGraph.Command.Line
import PromptGraph.Command.Run
import PromptGraph.Command.Source
import PromptGraph.Compile.Node
import PromptGraph.Compile.Port
import PromptGraph.Compile.Provider
import PromptGraph.Compile.Script
import PromptGraph.Compile.Workflow
import PromptGraph.Config.EnvFile
import PromptGraph.Config.Settings
import PromptGraph.Config.Tracing
import PromptGraph.Credential.Propagation
import PromptGraph.Credential.Service
import PromptGraph.Database.Row
import PromptGraph.Database.Statement
import PromptGraph.Database.Store
import PromptGraph.Deploy.Ensure
import PromptGraph.Deploy.Registry
import PromptGraph.Effect.Act
import PromptGraph.Effect.Files
import PromptGraph.Effect.Rehearsal
import PromptGraph.Engine.Access
import PromptGraph.Engine.Client
import PromptGraph.Engine.Credential
import PromptGraph.Engine.Definition
import PromptGraph.Engine.Execution
import PromptGraph.Execution.MemoryStore
import PromptGraph.Execution.Poll
import PromptGraph.Execution.Record
import PromptGraph.Execution.Run
import PromptGraph.Execution.Store
import PromptGraph.Failure
import PromptGraph.Http.Address
import PromptGraph.Http.Exchange
import PromptGraph.Http.Host
import PromptGraph.Http.LabelTable
import PromptGraph.Http.Percent
import PromptGraph.Json.Reader
import PromptGraph.Json.Strict
import PromptGraph.Json.Value
import PromptGraph.Json.Writer
import PromptGraph.Main
import PromptGraph.Notice
import PromptGraph.Number.Decimal
import PromptGraph.Number.Double
import PromptGraph.Proofs.Chain.Prompts
import PromptGraph.Proofs.Chain.Reading
import PromptGraph.Proofs.Chain.Refusals
import PromptGraph.Proofs.Checked
import PromptGraph.Proofs.Command.Shown
import PromptGraph.Proofs.Compile.Appending
import PromptGraph.Proofs.Compile.Connections
import PromptGraph.Proofs.Compile.Credentials
import PromptGraph.Proofs.Compile.DisplayNames
import PromptGraph.Proofs.Compile.Handles
import PromptGraph.Proofs.Compile.Literals
import PromptGraph.Proofs.Compile.Nodes
import PromptGraph.Proofs.Compile.Organizations
import PromptGraph.Proofs.Compile.Outcome
import PromptGraph.Proofs.Compile.Ports
import PromptGraph.Proofs.Compile.Requests
import PromptGraph.Proofs.Compile.Scripts
import PromptGraph.Proofs.Compile.Wiring
import PromptGraph.Proofs.Config.Addresses
import PromptGraph.Proofs.Credential.Attempts
import PromptGraph.Proofs.Credential.Names
import PromptGraph.Proofs.Credential.Outcome
import PromptGraph.Proofs.Credential.Reach
import PromptGraph.Proofs.Credential.References
import PromptGraph.Proofs.Credential.Tried
import PromptGraph.Proofs.Credential.Upsert
import PromptGraph.Proofs.Credential.Vault
import PromptGraph.Proofs.Credential.Writes
import PromptGraph.Proofs.Database.Attempts
import PromptGraph.Proofs.Database.Statements
import PromptGraph.Proofs.Deploy.Concurrent
import PromptGraph.Proofs.Deploy.Footprint
import PromptGraph.Proofs.Deploy.Lasting
import PromptGraph.Proofs.Deploy.Outcome
import PromptGraph.Proofs.Deploy.Phases
import PromptGraph.Proofs.Deploy.Recorded
import PromptGraph.Proofs.Deploy.Registry
import PromptGraph.Proofs.Deploy.RegistryMap
import PromptGraph.Proofs.Deploy.Remembering
import PromptGraph.Proofs.Deploy.Safety
import PromptGraph.Proofs.Deploy.Sessions
import PromptGraph.Proofs.Deploy.Sharing
import PromptGraph.Proofs.Deploy.Stages
import PromptGraph.Proofs.Deploy.Stored
import PromptGraph.Proofs.Deploy.Unreadable
import PromptGraph.Proofs.Deploy.Untouched
import PromptGraph.Proofs.Deploy.Writes
import PromptGraph.Proofs.Effect.Asked
import PromptGraph.Proofs.Effect.Comparison
import PromptGraph.Proofs.Effect.Courses
import PromptGraph.Proofs.Effect.Directories
import PromptGraph.Proofs.Effect.Files
import PromptGraph.Proofs.Effect.Programs
import PromptGraph.Proofs.Effect.Repetition
import PromptGraph.Proofs.Effect.Trials
import PromptGraph.Proofs.Effect.Turns
import PromptGraph.Proofs.Engine.Budget
import PromptGraph.Proofs.Engine.Cursors
import PromptGraph.Proofs.Engine.Failure
import PromptGraph.Proofs.Engine.Footprint
import PromptGraph.Proofs.Engine.Host
import PromptGraph.Proofs.Engine.Listing
import PromptGraph.Proofs.Engine.Pages
import PromptGraph.Proofs.Engine.Payloads
import PromptGraph.Proofs.Execution.Agreement
import PromptGraph.Proofs.Execution.Completion
import PromptGraph.Proofs.Execution.Isolation
import PromptGraph.Proofs.Execution.Lifecycle
import PromptGraph.Proofs.Execution.Polling
import PromptGraph.Proofs.Execution.Records
import PromptGraph.Proofs.Execution.Rollups
import PromptGraph.Proofs.Execution.Schedule
import PromptGraph.Proofs.Execution.Waiting
import PromptGraph.Proofs.Http.Arrival
import PromptGraph.Proofs.Json.Alike
import PromptGraph.Proofs.Json.Data
import PromptGraph.Proofs.Json.Faults
import PromptGraph.Proofs.Json.Members
import PromptGraph.Proofs.Json.Nesting
import PromptGraph.Proofs.Json.Numbers
import PromptGraph.Proofs.Json.Plain
import PromptGraph.Proofs.Json.RoundTrip
import PromptGraph.Proofs.Json.TextMembers
import PromptGraph.Proofs.Json.Texts
import PromptGraph.Proofs.Number.Integers
import PromptGraph.Proofs.Number.Range
import PromptGraph.Proofs.Number.Rounding
import PromptGraph.Proofs.Number.Shortest
import PromptGraph.Proofs.Number.Whole
import PromptGraph.Proofs.Rule.Conditions
import PromptGraph.Proofs.Rule.Terms
import PromptGraph.Proofs.Text.Delimiters
import PromptGraph.Proofs.Text.Encoding
import PromptGraph.Proofs.Text.Exchange
import PromptGraph.Proofs.Text.Lines
import PromptGraph.Proofs.Text.Segments
import PromptGraph.Proofs.Time.Civil
import PromptGraph.Proofs.Trace.Elapsed
import PromptGraph.Proofs.Trace.Latest
import PromptGraph.Proofs.Trace.Measured
import PromptGraph.Proofs.Trace.Millis
import PromptGraph.Proofs.Trace.Tokens
import PromptGraph.Rule.Condition
import PromptGraph.Rule.Validation
import PromptGraph.Schema.Field
import PromptGraph.Schema.Issue
import PromptGraph.Schema.Numeral
import PromptGraph.Text.Blank
import PromptGraph.Text.Capital
import PromptGraph.Text.Digit
import PromptGraph.Text.Encoding
import PromptGraph.Text.Hex
import PromptGraph.Text.Letter
import PromptGraph.Text.Lines
import PromptGraph.Text.Printable
import PromptGraph.Text.Punycode
import PromptGraph.Text.Quoted
import PromptGraph.Text.Replace
import PromptGraph.Text.Terminal
import PromptGraph.Time.Iso
import PromptGraph.Time.Timestamp
import PromptGraph.Trace.Metrics
import PromptGraph.Trace.Output
