import TemplateSchema.Calendar.Date
import TemplateSchema.Calendar.Iso
import TemplateSchema.Calendar.Moment
import TemplateSchema.Calendar.Rfc3339
import TemplateSchema.Chain.Fault
import TemplateSchema.Chain.Meaning
import TemplateSchema.Chain.Reader
import TemplateSchema.Chain.Schema
import TemplateSchema.Chain.Token
import TemplateSchema.CommandLine.Arguments
import TemplateSchema.CommandLine.Commands
import TemplateSchema.Document.Dates
import TemplateSchema.Document.Initial
import TemplateSchema.Document.Merge
import TemplateSchema.Document.Validation
import TemplateSchema.Failure
import TemplateSchema.Files
import TemplateSchema.Format.Email
import TemplateSchema.Format.Host
import TemplateSchema.Format.Punycode
import TemplateSchema.Format.Url
import TemplateSchema.Format.Uuid
import TemplateSchema.Json.Fault
import TemplateSchema.Json.Reader
import TemplateSchema.Json.Writer
import TemplateSchema.Log
import TemplateSchema.Main
import TemplateSchema.Number.Arithmetic
import TemplateSchema.Number.Binary64
import TemplateSchema.Number.Loose
import TemplateSchema.Number.Numeral
import TemplateSchema.Number.Quantity
import TemplateSchema.Number.Shortest
import TemplateSchema.Problem
import TemplateSchema.Proofs.Calendar.Instants
import TemplateSchema.Proofs.Calendar.Iso
import TemplateSchema.Proofs.Calendar.Reading
import TemplateSchema.Proofs.Chain.Calls
import TemplateSchema.Proofs.Chain.Complete
import TemplateSchema.Proofs.Chain.Declarations
import TemplateSchema.Proofs.Chain.Fields
import TemplateSchema.Proofs.Chain.Grammar
import TemplateSchema.Proofs.Chain.Locality
import TemplateSchema.Proofs.Chain.Order
import TemplateSchema.Proofs.Chain.Pieces
import TemplateSchema.Proofs.Chain.Progress
import TemplateSchema.Proofs.Chain.Routines
import TemplateSchema.Proofs.Chain.Scanning
import TemplateSchema.Proofs.Chain.Sound
import TemplateSchema.Proofs.Chain.Spelling
import TemplateSchema.Proofs.Chain.Tokens
import TemplateSchema.Proofs.Chain.Walk
import TemplateSchema.Proofs.Chain.WellFormed
import TemplateSchema.Proofs.Chain.Writes
import TemplateSchema.Proofs.CommandLine.Validation
import TemplateSchema.Proofs.Document.Agreement
import TemplateSchema.Proofs.Document.Blanks
import TemplateSchema.Proofs.Document.Bounds
import TemplateSchema.Proofs.Document.Coercion
import TemplateSchema.Proofs.Document.Conformance
import TemplateSchema.Proofs.Document.Defaults
import TemplateSchema.Proofs.Document.Depth
import TemplateSchema.Proofs.Document.Initial
import TemplateSchema.Proofs.Document.Offence
import TemplateSchema.Proofs.Document.Settled
import TemplateSchema.Proofs.Document.Start
import TemplateSchema.Proofs.Document.Undeclared
import TemplateSchema.Proofs.Format.Email
import TemplateSchema.Proofs.Json.Data
import TemplateSchema.Proofs.Json.LineEnds
import TemplateSchema.Proofs.Json.Quoted
import TemplateSchema.Proofs.Json.Reread
import TemplateSchema.Proofs.Json.Scalars
import TemplateSchema.Proofs.Json.Strings
import TemplateSchema.Proofs.Number.Exact
import TemplateSchema.Proofs.Problem.Paths
import TemplateSchema.Proofs.Schema.Conditions
import TemplateSchema.Proofs.Schema.Data
import TemplateSchema.Proofs.Schema.Everywhere
import TemplateSchema.Proofs.Schema.Names
import TemplateSchema.Proofs.Schema.Normalized
import TemplateSchema.Proofs.Schema.Places
import TemplateSchema.Proofs.Schema.Restored
import TemplateSchema.Proofs.Schema.Written
import TemplateSchema.Proofs.Settings.Overrides
import TemplateSchema.Proofs.Shape.Acceptance
import TemplateSchema.Proofs.Shape.Compiled
import TemplateSchema.Proofs.Shape.Dates
import TemplateSchema.Proofs.Shape.Defaults
import TemplateSchema.Proofs.Shape.Fixed
import TemplateSchema.Proofs.Shape.Steady
import TemplateSchema.Proofs.Shape.Twin
import TemplateSchema.Proofs.Success
import TemplateSchema.Proofs.Template.Directive
import TemplateSchema.Proofs.Template.Extraction
import TemplateSchema.Proofs.Template.Framing
import TemplateSchema.Proofs.Template.LineEnds
import TemplateSchema.Proofs.Template.Quiet
import TemplateSchema.Proofs.Template.Silence
import TemplateSchema.Proofs.Template.Tagged
import TemplateSchema.Proofs.Text.Decimal
import TemplateSchema.Proofs.Text.LineEnds
import TemplateSchema.Proofs.Text.Points
import TemplateSchema.Proofs.Value.Cut
import TemplateSchema.Proofs.Value.Entries
import TemplateSchema.Proofs.Value.Layers
import TemplateSchema.Proofs.Value.Proper
import TemplateSchema.Proofs.Yaml.Rounds
import TemplateSchema.Schema.Attribute
import TemplateSchema.Schema.Declaration
import TemplateSchema.Schema.Field
import TemplateSchema.Schema.Kind
import TemplateSchema.Schema.Misfit
import TemplateSchema.Schema.Normal
import TemplateSchema.Schema.Reading
import TemplateSchema.Schema.Stored
import TemplateSchema.Session
import TemplateSchema.Settings
import TemplateSchema.Shape.Basic
import TemplateSchema.Shape.Check
import TemplateSchema.Shape.Compile
import TemplateSchema.Shape.Flaw
import TemplateSchema.Shape.Parsed
import TemplateSchema.Template.Directive
import TemplateSchema.Template.Extraction
import TemplateSchema.Template.FrontMatter
import TemplateSchema.Template.Loading
import TemplateSchema.Text.Base64
import TemplateSchema.Text.Basic
import TemplateSchema.Text.Blank
import TemplateSchema.Text.Decimal
import TemplateSchema.Text.Digit
import TemplateSchema.Text.Lines
import TemplateSchema.Text.Printable
import TemplateSchema.Text.Quoted
import TemplateSchema.Text.Uppercase
import TemplateSchema.Text.Utf8
import TemplateSchema.Text.Word
import TemplateSchema.Value.Basic
import TemplateSchema.Value.Display
import TemplateSchema.Value.Instant
import TemplateSchema.Value.Mapping
import TemplateSchema.Value.Members
import TemplateSchema.Value.Stored
import TemplateSchema.Yaml.Cursor
import TemplateSchema.Yaml.Document
import TemplateSchema.Yaml.Fault
import TemplateSchema.Yaml.Lexer
import TemplateSchema.Yaml.Node
import TemplateSchema.Yaml.Scalar
import TemplateSchema.Yaml.Token
