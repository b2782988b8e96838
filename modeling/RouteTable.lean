import RouteTable.Command.Arguments
import RouteTable.Command.Depfile
import RouteTable.Command.Help
import RouteTable.Command.Run
import RouteTable.Exports.Bindings
import RouteTable.Exports.Collect
import RouteTable.Exports.Pattern
import RouteTable.Exports.Place
import RouteTable.Exports.Scan
import RouteTable.Exports.Statement
import RouteTable.Files.Change
import RouteTable.Files.Fault
import RouteTable.Files.Lookup
import RouteTable.Files.Path
import RouteTable.Files.Tree
import RouteTable.Files.Walk
import RouteTable.Glob.Braces
import RouteTable.Glob.Language
import RouteTable.Glob.Pattern
import RouteTable.Glob.Segment
import RouteTable.Log
import RouteTable.Main
import RouteTable.Pass.Discovery
import RouteTable.Pass.Error
import RouteTable.Pass.Generation
import RouteTable.Pass.Notice
import RouteTable.Regex.ByteRange
import RouteTable.Regex.Class
import RouteTable.Regex.Expression
import RouteTable.Regex.Footprint
import RouteTable.Regex.Parser
import RouteTable.Regex.Program
import RouteTable.Regex.Replacement
import RouteTable.Regex.Search
import RouteTable.Regex.Source
import RouteTable.Reporting
import RouteTable.Route.Choice
import RouteTable.Route.Module
import RouteTable.Route.Pattern
import RouteTable.Route.Plan
import RouteTable.Route.Scheme
import RouteTable.Route.Table
import RouteTable.Script.Character
import RouteTable.Script.Cursor
import RouteTable.Script.Escape
import RouteTable.Script.Lexeme
import RouteTable.Script.Literal
import RouteTable.Script.Spacing
import RouteTable.Script.Token
import RouteTable.Script.Tokens
import RouteTable.Settings.Base
import RouteTable.Settings.Config
import RouteTable.Settings.Layer
import RouteTable.Settings.Load
import RouteTable.Text.Added
import RouteTable.Text.Age
import RouteTable.Text.Alphabetic
import RouteTable.Text.Blank
import RouteTable.Text.Break
import RouteTable.Text.CaseFold
import RouteTable.Text.Category
import RouteTable.Text.CodePoints
import RouteTable.Text.Composite
import RouteTable.Text.Direction
import RouteTable.Text.Hexadecimal
import RouteTable.Text.Joining
import RouteTable.Text.Listed
import RouteTable.Text.NormalForm
import RouteTable.Text.Percent
import RouteTable.Text.Property
import RouteTable.Text.Quoted
import RouteTable.Text.Script
import RouteTable.Text.Shortest
import RouteTable.Text.Utf8
import RouteTable.Toml.Document
import RouteTable.Toml.Quoted
import RouteTable.Toml.Scalar
import RouteTable.Toml.Tree
import RouteTable.Toml.Value
import RouteTable.Url.Basic
import RouteTable.Url.Domain.Fold
import RouteTable.Url.Domain.Label
import RouteTable.Url.Domain.Punycode
import RouteTable.Url.Host
import RouteTable.Url.Reading
import RouteTable.Pass.Workers
import RouteTable.Proofs.Pass.Workers
import RouteTable.Proofs.Glob.Matching
import RouteTable.Proofs.Glob.Wildcards
import RouteTable.Proofs.Glob.Segments
import RouteTable.Proofs.Glob.Endings
import RouteTable.Proofs.Glob.Alternatives
import RouteTable.Proofs.Glob.Rescanning
import RouteTable.Proofs.Glob.Compile
import RouteTable.Proofs.Glob.Crossing
import RouteTable.Proofs.Glob.Below
import RouteTable.Proofs.Glob.Classes
import RouteTable.Proofs.Regex.Classes
import RouteTable.Proofs.Script.Written
import RouteTable.Proofs.Script.Legible
import RouteTable.Proofs.Script.Plain
import RouteTable.Proofs.Text.CodePoints
import RouteTable.Proofs.Exports.Reach
import RouteTable.Proofs.Exports.Annotation
import RouteTable.Proofs.Exports.Initializer
import RouteTable.Proofs.Script.Template
import RouteTable.Proofs.Url.Ascii
import RouteTable.Proofs.Url.Identity
import RouteTable.Proofs.Route.Aliases
import RouteTable.Proofs.Route.Outline
import RouteTable.Proofs.Route.Pieces
import RouteTable.Proofs.Route.Reading
import RouteTable.Proofs.Exports.Enclosed
import RouteTable.Proofs.Route.Render
import RouteTable.Proofs.Pass.Generation
import RouteTable.Proofs.Exports.Nesting
import RouteTable.Proofs.Exports.Parsers
import RouteTable.Proofs.Exports.Statements
import RouteTable.Proofs.Exports.TopLevel
import RouteTable.Proofs.Script.Blame
import RouteTable.Proofs.Script.Brackets
import RouteTable.Proofs.Script.Balance
import RouteTable.Proofs.Route.Hint
import RouteTable.Proofs.Exports.Concatenation
import RouteTable.Proofs.Script.Tiling
import RouteTable.Proofs.Pass.Discovery
import RouteTable.Proofs.Pass.Hidden
import RouteTable.Proofs.Pass.Ignored
import RouteTable.Proofs.Command.Configure
import RouteTable.Proofs.Command.Rule
import RouteTable.Proofs.Exports.Declarations
import RouteTable.Proofs.Exports.Patterns
import RouteTable.Proofs.Script.Commented
import RouteTable.Proofs.Command.Rerun
import RouteTable.Proofs.Script.Literals
import RouteTable.Proofs.Route.Segments
import RouteTable.Proofs.Exports.Specifiers
import RouteTable.Proofs.Exports.TypeOnly
import RouteTable.Proofs.Exports.LineBreaks
import RouteTable.Proofs.Exports.Indices
import RouteTable.Proofs.Exports.Mirroring
import RouteTable.Proofs.Exports.Progress
import RouteTable.Proofs.Script.Strings
import RouteTable.Proofs.Script.Parameters
import RouteTable.Proofs.Script.Embedding
import RouteTable.Proofs.Iteration
import RouteTable.Proofs.Script.Turns
import RouteTable.Proofs.Script.Loops
import RouteTable.Proofs.Script.Ending
import RouteTable.Proofs.Exports.TypeArguments
import RouteTable.Proofs.Exports.Comparing
import RouteTable.Proofs.Exports.Beginning
import RouteTable.Proofs.Exports.ReadingAlike
import RouteTable.Proofs.Exports.Generics
