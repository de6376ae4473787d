import ClassAtlas.Atlas.Access
import ClassAtlas.Atlas.Annot
import ClassAtlas.Atlas.AnnotText
import ClassAtlas.Atlas.Basic
import ClassAtlas.Atlas.ClassNode
import ClassAtlas.Atlas.Hierarchy
import ClassAtlas.Atlas.Ids
import ClassAtlas.Atlas.Member
import ClassAtlas.Atlas.Members
import ClassAtlas.Atlas.Packages
import ClassAtlas.Atlas.TypeRef
import ClassAtlas.Atlas.Types
import ClassAtlas.Batch
import ClassAtlas.Classpath
import ClassAtlas.CommandLine.Arguments
import ClassAtlas.CommandLine.Run
import ClassAtlas.Decimal.Binary
import ClassAtlas.Decimal.Shortest
import ClassAtlas.Dependency.Basic
import ClassAtlas.Dependency.Cycle
import ClassAtlas.Dependency.Direct
import ClassAtlas.Dependency.Index
import ClassAtlas.Dependency.Reverse
import ClassAtlas.Dependency.Transitive
import ClassAtlas.Digest.Md5
import ClassAtlas.Distinct
import ClassAtlas.Error
import ClassAtlas.Files
import ClassAtlas.ImportContext
import ClassAtlas.Json.Number
import ClassAtlas.Json.Parser
import ClassAtlas.Json.Printer
import ClassAtlas.Json.Reader
import ClassAtlas.Json.Token
import ClassAtlas.Json.Value
import ClassAtlas.Linker.Basic
import ClassAtlas.Linker.Phases
import ClassAtlas.Linker.Run
import ClassAtlas.Main
import ClassAtlas.Modifier
import ClassAtlas.Multimap
import ClassAtlas.PackagePattern.Automaton
import ClassAtlas.PackagePattern.Basic
import ClassAtlas.PackagePattern.Expr
import ClassAtlas.PackagePattern.Limits
import ClassAtlas.PackagePattern.Pieces
import ClassAtlas.PackagePattern.Preferred
import ClassAtlas.PackagePattern.Shape
import ClassAtlas.Phase
import ClassAtlas.Project
import ClassAtlas.Proofs.Atlas.Arrays
import ClassAtlas.Proofs.Atlas.Changes
import ClassAtlas.Proofs.Atlas.Extent
import ClassAtlas.Proofs.Atlas.GenericArrays
import ClassAtlas.Proofs.Atlas.Interning
import ClassAtlas.Proofs.Atlas.Involved
import ClassAtlas.Proofs.Atlas.Range
import ClassAtlas.Proofs.Atlas.Walks
import ClassAtlas.Proofs.Batch.CodeUnits
import ClassAtlas.Proofs.Batch.RecordOrder
import ClassAtlas.Proofs.Batch.Records
import ClassAtlas.Proofs.Batch.RoundTrip
import ClassAtlas.Proofs.Batch.Scopes
import ClassAtlas.Proofs.Dependency.AccessIndex
import ClassAtlas.Proofs.Dependency.Closure
import ClassAtlas.Proofs.Dependency.Cycles
import ClassAtlas.Proofs.Dependency.Index
import ClassAtlas.Proofs.Dependency.Order
import ClassAtlas.Proofs.Dependency.Readings
import ClassAtlas.Proofs.Dependency.Records
import ClassAtlas.Proofs.Dependency.Reverse
import ClassAtlas.Proofs.Dependency.Signatures
import ClassAtlas.Proofs.Dependency.Targets
import ClassAtlas.Proofs.Dependency.Transitive
import ClassAtlas.Proofs.Distinct
import ClassAtlas.Proofs.Json.Reading
import ClassAtlas.Proofs.Json.Text
import ClassAtlas.Proofs.Linker.AccessOrder
import ClassAtlas.Proofs.Linker.Accesses
import ClassAtlas.Proofs.Linker.Acyclic
import ClassAtlas.Proofs.Linker.ArrayErasure
import ClassAtlas.Proofs.Linker.Asking
import ClassAtlas.Proofs.Linker.Assignability
import ClassAtlas.Proofs.Linker.Building
import ClassAtlas.Proofs.Linker.CodeUnits
import ClassAtlas.Proofs.Linker.Consistency
import ClassAtlas.Proofs.Linker.Describes
import ClassAtlas.Proofs.Linker.Edits
import ClassAtlas.Proofs.Linker.Erasures
import ClassAtlas.Proofs.Linker.Finished
import ClassAtlas.Proofs.Linker.GenericArrays
import ClassAtlas.Proofs.Linker.Hierarchy
import ClassAtlas.Proofs.Linker.Integrity
import ClassAtlas.Proofs.Linker.Members
import ClassAtlas.Proofs.Linker.Moves
import ClassAtlas.Proofs.Linker.PhaseOrder
import ClassAtlas.Proofs.Linker.Reachable
import ClassAtlas.Proofs.Linker.Recorded
import ClassAtlas.Proofs.Linker.Runs
import ClassAtlas.Proofs.Linker.Spelling
import ClassAtlas.Proofs.Linker.Start
import ClassAtlas.Proofs.Linker.TwinMembers
import ClassAtlas.Proofs.Linker.Twins
import ClassAtlas.Proofs.Linker.Types
import ClassAtlas.Proofs.Linker.Uses
import ClassAtlas.Proofs.PackagePattern.Alternation
import ClassAtlas.Proofs.PackagePattern.Assembly
import ClassAtlas.Proofs.PackagePattern.Groups
import ClassAtlas.Proofs.PackagePattern.Items
import ClassAtlas.Proofs.Record.Erasure
import ClassAtlas.Proofs.Record.Names
import ClassAtlas.Proofs.Related
import ClassAtlas.Proofs.Report.Annots
import ClassAtlas.Proofs.Resolution.Fields
import ClassAtlas.Proofs.Resolution.Lookup
import ClassAtlas.Proofs.Resolution.Methods
import ClassAtlas.Proofs.Resolution.Reordering
import ClassAtlas.Proofs.Resolution.TargetNames
import ClassAtlas.Proofs.Resolution.Targets
import ClassAtlas.Proofs.Search.Chains
import ClassAtlas.Proofs.Search.Components
import ClassAtlas.Proofs.Search.FirstFound
import ClassAtlas.Proofs.Search.LowLinks
import ClassAtlas.Proofs.Search.Reachability
import ClassAtlas.Proofs.Search.Walk
import ClassAtlas.Proofs.Text.Separators
import ClassAtlas.Proofs.TypeName.FieldDescriptor
import ClassAtlas.Proofs.TypeName.History
import ClassAtlas.Proofs.TypeName.MethodDescriptor
import ClassAtlas.Proofs.TypeName.NormalForm
import ClassAtlas.Proofs.TypeName.Reading
import ClassAtlas.Record.Annot
import ClassAtlas.Record.Builder
import ClassAtlas.Record.Class
import ClassAtlas.Record.CodeUnit
import ClassAtlas.Record.Reader
import ClassAtlas.Record.TypeSig
import ClassAtlas.Record.Writer
import ClassAtlas.Report.Accessors
import ClassAtlas.Report.Annots
import ClassAtlas.Report.Command
import ClassAtlas.Report.Cycles
import ClassAtlas.Report.Deps
import ClassAtlas.Report.Output
import ClassAtlas.Report.Summary
import ClassAtlas.Resolution
import ClassAtlas.Search
import ClassAtlas.Search.Components
import ClassAtlas.Search.Walk
import ClassAtlas.Settings.Basic
import ClassAtlas.Settings.Json
import ClassAtlas.Settings.Toml
import ClassAtlas.Text.Blank
import ClassAtlas.Text.Cut
import ClassAtlas.Text.Encoding
import ClassAtlas.Text.Letter
import ClassAtlas.Text.Printable
import ClassAtlas.Text.Quoted
import ClassAtlas.Text.Ranges
import ClassAtlas.Text.WordChar
import ClassAtlas.Toml.Document
import ClassAtlas.Toml.Scalar
import ClassAtlas.Toml.Text
import ClassAtlas.Toml.Value
import ClassAtlas.TypeName.ClassFile
import ClassAtlas.TypeName.Descriptor
import ClassAtlas.TypeName.Primitive
import ClassAtlas.TypeName.Registry
