import ClientGen.CommandLine.Arguments
import ClientGen.CommandLine.Generate
import ClientGen.CommandLine.Problem
import ClientGen.CommandLine.Run
import ClientGen.Config.Basic
import ClientGen.Config.Draft
import ClientGen.Config.Loading
import ClientGen.Config.Printing
import ClientGen.Config.Reading
import ClientGen.Conversion
import ClientGen.Criterion
import ClientGen.Decimal.Binary64
import ClientGen.Decimal.Shortest
import ClientGen.Digest
import ClientGen.Document
import ClientGen.Document.Loading
import ClientGen.Failure
import ClientGen.Files.Basic
import ClientGen.Files.Path
import ClientGen.Generation.Backend
import ClientGen.Generation.Endpoint
import ClientGen.Generation.Files
import ClientGen.Generation.Pass
import ClientGen.Generation.Python
import ClientGen.Generation.Recorder
import ClientGen.Generation.TypeScript
import ClientGen.Json.Basic
import ClientGen.Json.Leading
import ClientGen.Json.Parser
import ClientGen.Json.Pointer
import ClientGen.Json.Printer
import ClientGen.Language
import ClientGen.Main
import ClientGen.Method.Basic
import ClientGen.Method.Location
import ClientGen.Method.MediaType
import ClientGen.Method.Style
import ClientGen.Method.Verb
import ClientGen.Model.Basic
import ClientGen.Model.Derived
import ClientGen.Model.Loading
import ClientGen.Model.Node
import ClientGen.Model.Resolution
import ClientGen.Model.Schema
import ClientGen.Model.Shape
import ClientGen.Pattern.Basic
import ClientGen.Pattern.Named
import ClientGen.Pattern.Parser
import ClientGen.Pattern.Regex
import ClientGen.Pattern.Syntax
import ClientGen.Proofs.Derivation.Coherence
import ClientGen.Proofs.Derivation.Origins
import ClientGen.Proofs.Derivation.RequestTypes
import ClientGen.Proofs.Derivation.Writable
import ClientGen.Proofs.Derivation.WriteTypes
import ClientGen.Proofs.DerivedTypes
import ClientGen.Proofs.Generation.Backends
import ClientGen.Proofs.Generation.Derivations
import ClientGen.Proofs.Generation.Spelling
import ClientGen.Proofs.Graph.Containers
import ClientGen.Proofs.Graph.Extension
import ClientGen.Proofs.Graph.Loading
import ClientGen.Proofs.Graph.Nodes
import ClientGen.Proofs.Graph.Resolution
import ClientGen.Proofs.Graph.WellFormed
import ClientGen.Proofs.Reachable
import ClientGen.Proofs.Shape
import ClientGen.Proofs.SharedShapes
import ClientGen.Proofs.Traversal
import ClientGen.Search
import ClientGen.Text.Basic
import ClientGen.Text.Quoted
import ClientGen.Text.Words
import ClientGen.Toml.Basic
import ClientGen.Toml.Parser
import ClientGen.Toml.Printer
import ClientGen.Unicode.Bounds
import ClientGen.Unicode.Case
import ClientGen.Unicode.CaseTable
import ClientGen.Unicode.Category
import ClientGen.Unicode.LetterTable
import ClientGen.Unicode.MarkTable
import ClientGen.Unicode.Property
import ClientGen.Unicode.PropertyTable
import ClientGen.Unicode.Script
import ClientGen.Unicode.ScriptTable
import ClientGen.Unicode.SymbolTable
import ClientGen.Yaml.Cursor
import ClientGen.Yaml.Node
import ClientGen.Yaml.Printer
import ClientGen.Yaml.Scalar
import ClientGen.Yaml.Token
import ClientGen.Yaml.Tree
import ClientGen.Proofs.Derivation.Invariants
import ClientGen.Proofs.Registry
import ClientGen.Proofs.CrossReferences
import ClientGen.Proofs.Derivation.Kinds
import ClientGen.Proofs.Generation.Outcomes
import ClientGen.Proofs.Generation.Rounds
import ClientGen.Proofs.Generation.Listing
import ClientGen.Proofs.Generation.RecordedFiles
import ClientGen.Proofs.Generation.ClosedFiles
import ClientGen.Proofs.Generation.Referring
import ClientGen.Proofs.Generation.Sending
import ClientGen.Proofs.Generation.Imports
import ClientGen.Proofs.Generation.Repetition
import ClientGen.Proofs.Generation.Regeneration
import ClientGen.Proofs.ComponentReferences
import ClientGen.Proofs.Endpoints
import ClientGen.Proofs.Generation.Calls
import ClientGen.Proofs.Permanence
import ClientGen.Proofs.Operations
import ClientGen.Proofs.Interning
import ClientGen.Proofs.ScalarTypes
import ClientGen.Proofs.Appending
import ClientGen.Proofs.Conversion.Recovery
import ClientGen.Proofs.Schemas.DistinctNames
import ClientGen.Proofs.Schemas.Properties
import ClientGen.Proofs.Generation.Halting
import ClientGen.Proofs.TypeSearch
import ClientGen.Proofs.Conversion.Pointers
import ClientGen.Proofs.Conversion.Styles
import ClientGen.Proofs.Separators
import ClientGen.Proofs.Files.Ways
import ClientGen.Proofs.Files.Growth
import ClientGen.Proofs.CommandLine.Passes
import ClientGen.Proofs.Atomicity
import ClientGen.Proofs.Derivation.WriteCalls
import ClientGen.Proofs.Generation.Totality
import ClientGen.Proofs.Generation.PythonNames
import ClientGen.Proofs.Nesting
import ClientGen.Proofs.Parameters.Equality
import ClientGen.Proofs.Parameters.Merging
import ClientGen.Proofs.Parameters.Identity
import ClientGen.Proofs.Conversion.Frame
import ClientGen.Proofs.Generation.Paths
import ClientGen.Proofs.Parameters.Ordering
import ClientGen.Proofs.Responses
import ClientGen.Proofs.Generation.Bodies
import ClientGen.Proofs.ReferenceChains
import ClientGen.Proofs.SearchGroups
import ClientGen.Proofs.Generation.CommentedFiles
import ClientGen.Proofs.ShapeAgreement
import ClientGen.Proofs.SnakeCase
