import ClientGen.Builtin.Definition
import ClientGen.Builtin.Products
import ClientGen.Builtin.Storage
import ClientGen.Builtin.Weather
import ClientGen.Code.Expr
import ClientGen.Code.Import
import ClientGen.Code.Item
import ClientGen.Code.Layout
import ClientGen.Code.Scope
import ClientGen.Code.Stmt
import ClientGen.Code.Writer
import ClientGen.Codec.Decode
import ClientGen.Codec.Emission
import ClientGen.Codec.Encode
import ClientGen.Codec.Keys
import ClientGen.Codec.Path
import ClientGen.Codec.Record
import ClientGen.Codec.Trail
import ClientGen.CommandLine.Files
import ClientGen.CommandLine.Options
import ClientGen.CommandLine.Run
import ClientGen.Crate.Basic
import ClientGen.Crate.Client
import ClientGen.Crate.Config
import ClientGen.Crate.Emission
import ClientGen.Crate.Formatted
import ClientGen.Crate.Manifest
import ClientGen.Crate.Settings
import ClientGen.Crate.Support.Basic
import ClientGen.Crate.Support.Errors
import ClientGen.Crate.Support.Http
import ClientGen.Crate.Support.Layers
import ClientGen.Crate.Support.Stack
import ClientGen.Crate.Support.Wire
import ClientGen.Crate.Types
import ClientGen.Decimal.Double
import ClientGen.Decimal.Shortest
import ClientGen.Decimal.Text
import ClientGen.Dependency
import ClientGen.Error
import ClientGen.Format.Expressions
import ClientGen.Format.File
import ClientGen.Format.Items
import ClientGen.Format.Layout
import ClientGen.Format.Page
import ClientGen.Format.Tokens
import ClientGen.Format.Types
import ClientGen.Graph.Boxing
import ClientGen.Graph.Cycle
import ClientGen.Graph.Reachable
import ClientGen.Graph.Validation
import ClientGen.Json.Decode
import ClientGen.Json.Node
import ClientGen.Json.Number
import ClientGen.Json.Printer
import ClientGen.Json.Token
import ClientGen.Json.Value
import ClientGen.Main
import ClientGen.Middleware.Registry
import ClientGen.Middleware.Step
import ClientGen.Model.Basic
import ClientGen.Model.Build
import ClientGen.Model.Catalog
import ClientGen.Model.Document
import ClientGen.Model.Operation
import ClientGen.Model.Resolve
import ClientGen.Model.Shape
import ClientGen.Model.ShapeId
import ClientGen.Naming
import ClientGen.Order.SortedSet
import ClientGen.Order.Topological
import ClientGen.Proofs.Code.Calls
import ClientGen.Proofs.Code.Documentation
import ClientGen.Proofs.Code.Following
import ClientGen.Proofs.Code.Imports
import ClientGen.Proofs.Code.Lines
import ClientGen.Proofs.Code.Literals
import ClientGen.Proofs.Code.Needs
import ClientGen.Proofs.Code.Occurrences
import ClientGen.Proofs.Code.Scopes
import ClientGen.Proofs.Code.Writing
import ClientGen.Proofs.Codec.AbsentValues
import ClientGen.Proofs.Codec.Calls
import ClientGen.Proofs.Codec.Emission
import ClientGen.Proofs.Codec.Faults
import ClientGen.Proofs.Codec.Following
import ClientGen.Proofs.Codec.KeyTables
import ClientGen.Proofs.Codec.Locals
import ClientGen.Proofs.Codec.Nesting
import ClientGen.Proofs.Codec.Options
import ClientGen.Proofs.Codec.Outline
import ClientGen.Proofs.Codec.WireKeys
import ClientGen.Proofs.Codec.Writing
import ClientGen.Proofs.Crate.Blobs
import ClientGen.Proofs.Crate.Calls
import ClientGen.Proofs.Crate.Closedness
import ClientGen.Proofs.Crate.Documentation
import ClientGen.Proofs.Crate.Emission
import ClientGen.Proofs.Crate.EnumVariants
import ClientGen.Proofs.Crate.Faults
import ClientGen.Proofs.Crate.FreeNames
import ClientGen.Proofs.Crate.Locality
import ClientGen.Proofs.Crate.Manifest
import ClientGen.Proofs.Crate.Methods
import ClientGen.Proofs.Crate.Outline
import ClientGen.Proofs.Crate.Settings
import ClientGen.Proofs.Crate.TypeDefinitions
import ClientGen.Proofs.Crate.Variants
import ClientGen.Proofs.Graph.Boxing
import ClientGen.Proofs.Graph.Closure
import ClientGen.Proofs.Graph.CycleReports
import ClientGen.Proofs.Graph.Cycles
import ClientGen.Proofs.Graph.Outline
import ClientGen.Proofs.Graph.Reached
import ClientGen.Proofs.Graph.SelfContainment
import ClientGen.Proofs.Graph.Soundness
import ClientGen.Proofs.Json.Decoders
import ClientGen.Proofs.Json.Tree
import ClientGen.Proofs.Json.Values
import ClientGen.Proofs.Middleware.Additions
import ClientGen.Proofs.Middleware.Constraints
import ClientGen.Proofs.Middleware.Contradictions
import ClientGen.Proofs.Middleware.Forward
import ClientGen.Proofs.Middleware.Heads
import ClientGen.Proofs.Middleware.Phase
import ClientGen.Proofs.Middleware.Registration
import ClientGen.Proofs.Middleware.Rendering
import ClientGen.Proofs.Middleware.Resolution
import ClientGen.Proofs.Model.Documentation
import ClientGen.Proofs.Model.Insertion
import ClientGen.Proofs.Model.Loading
import ClientGen.Proofs.Model.Rereading
import ClientGen.Proofs.Model.RoundTrip
import ClientGen.Proofs.Naming.Identifiers
import ClientGen.Proofs.Naming.SnakeCase
import ClientGen.Proofs.Naming.Words
import ClientGen.Proofs.Order.Acyclic
import ClientGen.Proofs.Order.Bytes
import ClientGen.Proofs.Order.Counts
import ClientGen.Proofs.Order.Greedy
import ClientGen.Proofs.Order.Groups
import ClientGen.Proofs.Order.LeastReached
import ClientGen.Proofs.Order.Lexicographic
import ClientGen.Proofs.Order.Stuck
import ClientGen.Proofs.Protocol.Calls
import ClientGen.Proofs.Protocol.Destinations
import ClientGen.Proofs.Protocol.Emission
import ClientGen.Proofs.Protocol.Faults
import ClientGen.Proofs.Protocol.Formats
import ClientGen.Proofs.Protocol.Labels
import ClientGen.Proofs.Protocol.Mutability
import ClientGen.Proofs.Protocol.Outline
import ClientGen.Proofs.Protocol.Paths
import ClientGen.Proofs.Protocol.Reach
import ClientGen.Proofs.Protocol.Templates
import ClientGen.Proofs.Results
import ClientGen.Proofs.Symbol.CompoundDefaults
import ClientGen.Proofs.Symbol.Faults
import ClientGen.Proofs.Symbol.IntegerDefaults
import ClientGen.Proofs.Symbol.Memory
import ClientGen.Proofs.Symbol.Outline
import ClientGen.Proofs.Symbol.Parts
import ClientGen.Proofs.Symbol.Paths
import ClientGen.Proofs.Symbol.TypeNames
import ClientGen.Proofs.Unicode.Ascii
import ClientGen.Protocol.Emission
import ClientGen.Protocol.Profile
import ClientGen.Protocol.Request
import ClientGen.Protocol.Uri
import ClientGen.Symbol.Basic
import ClientGen.Symbol.Provider
import ClientGen.Symbol.Resolve
import ClientGen.Syntax.Blank
import ClientGen.Syntax.Expressions
import ClientGen.Syntax.Grammar
import ClientGen.Syntax.Items
import ClientGen.Syntax.Literal
import ClientGen.Syntax.Outline
import ClientGen.Syntax.Path
import ClientGen.Syntax.Patterns
import ClientGen.Syntax.Reader
import ClientGen.Syntax.Statements
import ClientGen.Syntax.Token
import ClientGen.Syntax.Tree
import ClientGen.Syntax.Types
import ClientGen.Text.Blank
import ClientGen.Text.DocComment
import ClientGen.Text.Lines
import ClientGen.Text.Quoted
import ClientGen.Text.Substitute
import ClientGen.Text.Toml
import ClientGen.Unicode.Case
import ClientGen.Unicode.CaseTables
import ClientGen.Unicode.Class
import ClientGen.Unicode.PrintTables
import ClientGen.Unicode.Printable
import ClientGen.Unicode.Word
import ClientGen.Unicode.WordTables
