import SchemaCoverage.Text.Alphanumeric
import SchemaCoverage.Text.UpperCase
import SchemaCoverage.Text.Printable
import SchemaCoverage.Assoc
import SchemaCoverage.Host.Path
import SchemaCoverage.Host.TypeRef
import SchemaCoverage.Host.Wrappers
import SchemaCoverage.Host.TypeRef.Parser
import SchemaCoverage.Sdl.Token
import SchemaCoverage.Sdl.Lexer
import SchemaCoverage.Sdl.Document
import SchemaCoverage.Sdl.Parser
import SchemaCoverage.Schema.Coordinate
import SchemaCoverage.Schema.FieldType
import SchemaCoverage.Schema.GraphType
import SchemaCoverage.Schema.Graph
import SchemaCoverage.Schema.Error
import SchemaCoverage.Text.Quoted
import SchemaCoverage.Text.Utf8
import SchemaCoverage.Files.Tree
import SchemaCoverage.Schema.References
import SchemaCoverage.Schema.Builder
import SchemaCoverage.Search
import SchemaCoverage.Host.HostType
import SchemaCoverage.Host.Registry
import SchemaCoverage.Json.Value
import SchemaCoverage.Json.Reader
import SchemaCoverage.Json.Writer
import SchemaCoverage.Json.Record
import SchemaCoverage.Host.Json
import SchemaCoverage.Controller.Method
import SchemaCoverage.Controller.Registry
import SchemaCoverage.Candidates.TypeNames
import SchemaCoverage.Candidates.Table
import SchemaCoverage.Candidates.Resolver
import SchemaCoverage.Inspection.Report
import SchemaCoverage.Inspection.Tally
import SchemaCoverage.Inspection.Walk
import SchemaCoverage.Inspection.Memo
import SchemaCoverage.Inspection.Inspector
import SchemaCoverage.Arguments.Context
import SchemaCoverage.Arguments.Binding
import SchemaCoverage.Arguments.Resolver
import SchemaCoverage.Manifest
import SchemaCoverage.CommandLine.Word
import SchemaCoverage.CommandLine.Options
import SchemaCoverage.CommandLine.Reader
import SchemaCoverage.Files.Walk
import SchemaCoverage.CommandLine.SchemaFiles
import SchemaCoverage.CommandLine.Inspection
import SchemaCoverage.CommandLine.LogLevel
import SchemaCoverage.Text.Identifier
import SchemaCoverage.Declaration.MemberName
import SchemaCoverage.Declaration.Token
import SchemaCoverage.Declaration.Number
import SchemaCoverage.Declaration.Literal
import SchemaCoverage.Declaration.Lexer
import SchemaCoverage.Declaration.Fault
import SchemaCoverage.Declaration.Ahead
import SchemaCoverage.Declaration.Parser
import SchemaCoverage.Declaration.Phrase
import SchemaCoverage.Declaration.Attribute
import SchemaCoverage.Declaration.Path
import SchemaCoverage.Declaration.Generics
import SchemaCoverage.Declaration.Bound
import SchemaCoverage.Declaration.TypeExpr
import SchemaCoverage.Declaration.Field
import SchemaCoverage.Declaration.Pattern
import SchemaCoverage.Declaration.Signature
import SchemaCoverage.Declaration.Operator
import SchemaCoverage.Declaration.Expression
import SchemaCoverage.Declaration.Operation
import SchemaCoverage.Declaration.Import
import SchemaCoverage.Declaration.Part
import SchemaCoverage.Declaration.Definition
import SchemaCoverage.Declaration.Statement
import SchemaCoverage.Declaration.Nesting
import SchemaCoverage.Declaration.Item
import SchemaCoverage.Declaration.HostAttribute
import SchemaCoverage.Declaration.Outline
import SchemaCoverage.Declaration.Expansion
import SchemaCoverage.Declaration.Description
import SchemaCoverage.Main
import SchemaCoverage.Declaration.Module
import SchemaCoverage.Proofs.Success
import SchemaCoverage.Proofs.Assoc
import SchemaCoverage.Proofs.Schema.Extending
import SchemaCoverage.Proofs.Schema.Merging
import SchemaCoverage.Proofs.Schema.Placed
import SchemaCoverage.Proofs.Schema.Loading
import SchemaCoverage.Proofs.Schema.Building
import SchemaCoverage.Proofs.Schema.Referring
import SchemaCoverage.Proofs.Schema.Acceptance
import SchemaCoverage.Proofs.Inspection.Steps
import SchemaCoverage.Proofs.Inspection.Targets
import SchemaCoverage.Proofs.Inspection.Reach
import SchemaCoverage.Proofs.Inspection.Records
import SchemaCoverage.Proofs.Inspection.Findings
import SchemaCoverage.Proofs.Inspection.Pairs
import SchemaCoverage.Proofs.Inspection.Raises
import SchemaCoverage.Proofs.Schema.Possible
import SchemaCoverage.Proofs.Inspection.Followed
import SchemaCoverage.Proofs.Inspection.Skipped
import SchemaCoverage.Proofs.Inspection.Accounting
import SchemaCoverage.Proofs.Schema.WellFormed
import SchemaCoverage.Proofs.Schema.Order
import SchemaCoverage.Proofs.Host.Registered
import SchemaCoverage.Proofs.Inspection.Calls
import SchemaCoverage.Proofs.Inspection.Termination
import SchemaCoverage.Proofs.Inspection.Settled
import SchemaCoverage.Proofs.Host.Spelling
import SchemaCoverage.Proofs.Host.Reading
import SchemaCoverage.Proofs.Search
import SchemaCoverage.Proofs.Candidates.Plain
import SchemaCoverage.Proofs.Inspection.Agreement
import SchemaCoverage.Proofs.Inspection.SameFindings
import SchemaCoverage.Proofs.Inspection.Shuffling
import SchemaCoverage.Proofs.Inspection.Thorough
import SchemaCoverage.Proofs.Schema.Outcome
import SchemaCoverage.Proofs.Host.Assignable
import SchemaCoverage.Proofs.Schema.Collecting
import SchemaCoverage.Proofs.Schema.Clauses
import SchemaCoverage.Proofs.Schema.Refusing
import SchemaCoverage.Proofs.Host.Preorder
import SchemaCoverage.Proofs.Host.Segments
import SchemaCoverage.Proofs.Host.Culprit
import SchemaCoverage.Proofs.Inspection.Layers
import SchemaCoverage.Proofs.Inspection.SameReport
import SchemaCoverage.Proofs.Controller.Coordinates
import SchemaCoverage.Proofs.Inspection.Recording
import SchemaCoverage.Proofs.Inspection.Registrations
import SchemaCoverage.Proofs.Inspection.Policies
import SchemaCoverage.Proofs.Candidates.Mapped
import SchemaCoverage.Proofs.Inspection.Precedence
import SchemaCoverage.Proofs.Candidates.Convention
import SchemaCoverage.Proofs.Candidates.Nearest
import SchemaCoverage.Proofs.Candidates.Inverse
import SchemaCoverage.Proofs.Arguments.Scopes
import SchemaCoverage.Proofs.Host.Registering
import SchemaCoverage.Proofs.Schema.CoordinateText
import SchemaCoverage.Proofs.Inspection.Queries
import SchemaCoverage.Proofs.Files.Places
import SchemaCoverage.Proofs.Text.Cut
import SchemaCoverage.Proofs.Files.Listing
import SchemaCoverage.Proofs.CommandLine.Collected
import SchemaCoverage.Proofs.Host.Unwrapping
import SchemaCoverage.Proofs.Sdl.WrittenType
import SchemaCoverage.Proofs.Schema.Annotation
import SchemaCoverage.Proofs.Declaration.Permitted
import SchemaCoverage.Proofs.Inspection.Lookups
import SchemaCoverage.Proofs.Inspection.Remembering
import SchemaCoverage.Proofs.Declaration.CamelCase
