import ModelSync.Authorization
import ModelSync.BuildError
import ModelSync.Client
import ModelSync.Config
import ModelSync.Config.EnvFile
import ModelSync.Config.EnvFile.Line
import ModelSync.Config.EnvFile.Value
import ModelSync.Decoration
import ModelSync.Json.Decode
import ModelSync.Json.Double
import ModelSync.Json.Number
import ModelSync.Json.Printer
import ModelSync.Json.Reader
import ModelSync.Json.Value
import ModelSync.KeyMap
import ModelSync.Predicate
import ModelSync.Predicate.Codec
import ModelSync.Predicate.Filter
import ModelSync.Proofs.Authorization
import ModelSync.Proofs.Authorization.Ranking
import ModelSync.Proofs.Client.Count
import ModelSync.Proofs.Client.Isolation
import ModelSync.Proofs.Client.Launch
import ModelSync.Proofs.Client.Moves
import ModelSync.Proofs.Client.Opening
import ModelSync.Proofs.Client.Registry
import ModelSync.Proofs.Client.Scenarios
import ModelSync.Proofs.Client.Shutdown
import ModelSync.Proofs.Decoration
import ModelSync.Proofs.Decoration.Cases
import ModelSync.Proofs.Decoration.Groups
import ModelSync.Proofs.Decoration.Owners
import ModelSync.Proofs.Except
import ModelSync.Proofs.Json.Loosening
import ModelSync.Proofs.Json.Structure
import ModelSync.Proofs.KeyMap
import ModelSync.Proofs.Predicate.Chains
import ModelSync.Proofs.Predicate.Codec
import ModelSync.Proofs.Predicate.Combination
import ModelSync.Proofs.Predicate.Compilation
import ModelSync.Proofs.Predicate.Reading
import ModelSync.Proofs.Request.Acceptance
import ModelSync.Proofs.Request.Bindings
import ModelSync.Proofs.Request.Blocks
import ModelSync.Proofs.Request.Document
import ModelSync.Proofs.Request.Input
import ModelSync.Proofs.Request.Names
import ModelSync.Proofs.Request.Order
import ModelSync.Proofs.Request.Selection
import ModelSync.Proofs.Request.Spelling
import ModelSync.Proofs.Request.Uniformity
import ModelSync.Proofs.Request.Variables
import ModelSync.Proofs.Response.Codec
import ModelSync.Proofs.Schema.Codec
import ModelSync.Proofs.Schema.Expansion
import ModelSync.Proofs.Schema.Validation
import ModelSync.Proofs.Subscription.Answers
import ModelSync.Proofs.Subscription.Calls
import ModelSync.Proofs.Subscription.Choices
import ModelSync.Proofs.Subscription.Delivery
import ModelSync.Proofs.Subscription.Earlier
import ModelSync.Proofs.Subscription.Events
import ModelSync.Proofs.Subscription.Launch
import ModelSync.Proofs.Subscription.Lifecycle
import ModelSync.Proofs.Subscription.Moves
import ModelSync.Proofs.Subscription.Outcome
import ModelSync.Proofs.Subscription.Ownership
import ModelSync.Proofs.Subscription.Progress
import ModelSync.Proofs.Subscription.Reads
import ModelSync.Proofs.Subscription.Refinement
import ModelSync.Proofs.Subscription.Release
import ModelSync.Proofs.Subscription.Rounds
import ModelSync.Proofs.Subscription.Running
import ModelSync.Proofs.Subscription.Schedule
import ModelSync.Proofs.Subscription.Search
import ModelSync.Proofs.Subscription.States
import ModelSync.Proofs.Subscription.Streams
import ModelSync.Proofs.Subscription.Transitions
import ModelSync.Proofs.Subscription.Trial
import ModelSync.Proofs.Text.Cutting
import ModelSync.Proofs.Text.Words
import ModelSync.Record
import ModelSync.Request
import ModelSync.Request.Builders
import ModelSync.Request.Document
import ModelSync.Request.Input
import ModelSync.Request.RecordSelection
import ModelSync.Response
import ModelSync.Scenario.Report
import ModelSync.Scenario.Setup
import ModelSync.Scenario.World
import ModelSync.Schema
import ModelSync.Schema.Codec
import ModelSync.Schema.Expansion
import ModelSync.Subscription.Error
import ModelSync.Subscription.Operation
import ModelSync.Subscription.Phase
import ModelSync.Subscription.Stream
import ModelSync.Text.Alphanumeric
import ModelSync.Text.Blank
import ModelSync.Text.Quoted
