import Escalation.Text.Lowercase
import Escalation.Text.Search
import Escalation.Number.Layout
import Escalation.Number.Reader
import Escalation.Text.CaseFold
import Escalation.Text.Category.Table
import Escalation.Text.Script
import Escalation.Text.Property.Table
import Escalation.Json.Printer
import Escalation.Json.Reader
import Escalation.Value.Attributes
import Escalation.Time.Clock
import Escalation.Condition.Field
import Escalation.Pattern
import Escalation.Pattern.Reader
import Escalation.Condition.Evaluate
import Escalation.Rule.Book
import Escalation.Rule.Match
import Escalation.Engine.Profile
import Escalation.Rule.Apply
import Escalation.Form
import Escalation.Form.Value
import Escalation.Form.Rule
import Escalation.Form.Event
import Escalation.Form.Outcome
import Escalation.Form.Fault
import Escalation.Form.Field
import Escalation.Form.Metrics
import Escalation.Form.Registry
import Escalation.Json.Members
import Escalation.Yaml.Cursor
import Escalation.Yaml.Token
import Escalation.Yaml.Token.Scalar
import Escalation.Yaml.Token.Lexer
import Escalation.Yaml.Scalar
import Escalation.Yaml.Document
import Escalation.Fault
import Escalation.Router.Source
import Escalation.Router.Settings
import Escalation.Router.Request
import Escalation.Router
import Escalation.Number.Binary
import Escalation.CommandLine.Settings
import Escalation.CommandLine.Environment
import Escalation.CommandLine.Arguments
import Escalation.CommandLine.Help
import Escalation.CommandLine.Command
import Escalation.CommandLine
import Escalation.Main
import Escalation.Proofs.Value.Alike
import Escalation.Proofs.Condition.Reads
import Escalation.Proofs.Cache.Encoding
import Escalation.Proofs.Cache.Preimage
import Escalation.Proofs.Registry.Order
import Escalation.Proofs.Registry.Changes
import Escalation.Proofs.Registry.Registration
import Escalation.Proofs.Registry.Invariant
import Escalation.Proofs.Registry.Refinement
import Escalation.Proofs.Rule.FirstMatch
import Escalation.Proofs.Cache.Contents
import Escalation.Proofs.Engine.Evaluate
import Escalation.Proofs.Engine.Run
import Escalation.Proofs.Engine.Transparency
import Escalation.Proofs.Engine.Changes
import Escalation.Proofs.Engine.EntryPoints
import Escalation.Proofs.Condition.PatternStore
import Escalation.Proofs.Condition.Validity
import Escalation.Proofs.Condition.Rejection
import Escalation.Proofs.Engine.Answers
import Escalation.Proofs.Router.Run
import Escalation.Proofs.Rule.Application
import Escalation.Proofs.Router.Expiry
import Escalation.Proofs.Router.Reload
import Escalation.Proofs.Router.Route
import Escalation.Proofs.Cache.Stats
import Escalation.Proofs.Engine.Hits
import Escalation.Proofs.Engine.Reach
import Escalation.Proofs.Engine.Tally
import Escalation.Proofs.Cache.Retention
import Escalation.Proofs.Form.Variation
import Escalation.Proofs.Form.Rule
import Escalation.Proofs.Form.Event
import Escalation.Proofs.Form.Outcome
import Escalation.Proofs.Engine.Regular
import Escalation.Proofs.Form.Decoding
import Escalation.Proofs.Cache.History
import Escalation.Proofs.Cache.Newest
import Escalation.Proofs.Cache.Balance
import Escalation.Proofs.Rule.Paths
import Escalation.Proofs.Rule.LastWriter
import Escalation.Proofs.Rule.Skips
import Escalation.Proofs.Text.Search
import Escalation.Proofs.Time.Window
import Escalation.Proofs.Time.Local
import Escalation.Proofs.Time.Grammar
import Escalation.Proofs.Engine.Recent
import Escalation.Proofs.Condition.Subject
import Escalation.Proofs.Condition.Composite
import Escalation.Proofs.Condition.Identity
import Escalation.Proofs.Condition.IgnoringCase
import Escalation.Proofs.Text.Lowercase
import Escalation.Proofs.Number.Order
import Escalation.Proofs.Number.Reader
import Escalation.Proofs.Value.Part
import Escalation.Proofs.Condition.Opposite
import Escalation.Proofs.Json.Ordered
import Escalation.Proofs.Form.Ordered
import Escalation.Proofs.Condition.Lookup
import Escalation.Proofs.Condition.Threshold
import Escalation.Proofs.Value.Same
import Escalation.Proofs.Rule.Told
import Escalation.Proofs.Engine.Rules
import Escalation.Proofs.Rule.Sameness
import Escalation.Proofs.Engine.Sameness
import Escalation.Proofs.Engine.Starvation
import Escalation.Proofs.Registry.Acceptance
import Escalation.Proofs.Condition.StoredPatterns
import Escalation.Proofs.Condition.Path
import Escalation.Proofs.Condition.Conversation
