import NativeWrappers.AccessorTable
import NativeWrappers.Batch
import NativeWrappers.Command.Generate
import NativeWrappers.Command.Line
import NativeWrappers.Command.Options
import NativeWrappers.Conventions
import NativeWrappers.Decimal.Shortest
import NativeWrappers.Declaration
import NativeWrappers.Delivery
import NativeWrappers.Diagnostic.Basic
import NativeWrappers.Diagnostic.Code
import NativeWrappers.Diagnostic.Explanation
import NativeWrappers.Diagnostic.OfProblem
import NativeWrappers.Diagnostic.Terminal
import NativeWrappers.Exposure
import NativeWrappers.Files.Access
import NativeWrappers.Files.FileSystem
import NativeWrappers.Files.Output
import NativeWrappers.Files.Path
import NativeWrappers.Hierarchy.Lineage
import NativeWrappers.Hierarchy.Order
import NativeWrappers.Json.Cursor
import NativeWrappers.Json.Fault
import NativeWrappers.Json.Number
import NativeWrappers.Json.Schema
import NativeWrappers.Json.Skip
import NativeWrappers.Json.Text
import NativeWrappers.Json.Value
import NativeWrappers.Main
import NativeWrappers.ModelFile.Basic
import NativeWrappers.ModelFile.Decoding
import NativeWrappers.ModelFile.Encoding
import NativeWrappers.ModelFile.Reading
import NativeWrappers.ModelFile.Schema
import NativeWrappers.Problem
import NativeWrappers.Proofs.Traversal
import NativeWrappers.QualifiedName
import NativeWrappers.Source.Document
import NativeWrappers.Source.Identifier
import NativeWrappers.Source.NameTable
import NativeWrappers.Source.Render
import NativeWrappers.Text.Lines
import NativeWrappers.Text.Lowercase
import NativeWrappers.Text.Quoted
import NativeWrappers.Text.Segments
import NativeWrappers.Text.Unprintable
import NativeWrappers.TypeExpr
import NativeWrappers.Wrapper
import NativeWrappers.Wrapper.Class
import NativeWrappers.Wrapper.Interface
import NativeWrappers.Wrapper.InterfaceTable
import NativeWrappers.WrapperModel
import NativeWrappers.Proofs.Hierarchy.Lineage
import NativeWrappers.Proofs.Hierarchy.Order
import NativeWrappers.Proofs.Wrapper.Members
import NativeWrappers.Proofs.Wrapper.InterfaceTable
import NativeWrappers.Proofs.Inheritance
import NativeWrappers.Proofs.Flattening
import NativeWrappers.Proofs.AccessorTable
import NativeWrappers.Proofs.InputOrder
import NativeWrappers.Proofs.Overrides
import NativeWrappers.Proofs.Checks
import NativeWrappers.Proofs.Hierarchy.Cycles
import NativeWrappers.Proofs.Exposure
import NativeWrappers.Proofs.Wrapper.Checks
import NativeWrappers.Proofs.Acceptance
import NativeWrappers.Proofs.Hierarchy.Restriction
import NativeWrappers.Proofs.Independence
import NativeWrappers.Proofs.Source.NullCheck
import NativeWrappers.Proofs.Delegation
import NativeWrappers.Proofs.SelfInterface
import NativeWrappers.Proofs.Source.Identifier
import NativeWrappers.Proofs.Source.NameTable
import NativeWrappers.Proofs.Source.Spelling
import NativeWrappers.Proofs.Source.Keywords
import NativeWrappers.Proofs.Source.Layout
import NativeWrappers.Proofs.Source.Imports
import NativeWrappers.Proofs.References
import NativeWrappers.Proofs.Visibility
import NativeWrappers.Proofs.FallbackScope
import NativeWrappers.Proofs.Agreement
import NativeWrappers.Proofs.FieldReferences
import NativeWrappers.Proofs.Hierarchy.Likeness
import NativeWrappers.Proofs.Likeness
import NativeWrappers.Proofs.Source.Resolution
import NativeWrappers.Proofs.StreamKinds
import NativeWrappers.Proofs.UnreachableMembers
import NativeWrappers.Proofs.Files.Writing
import NativeWrappers.Proofs.Command.Generate
import NativeWrappers.Proofs.Files.Path
import NativeWrappers.Proofs.Files.Placement
import NativeWrappers.Proofs.Files.Distinctness
import NativeWrappers.Proofs.Command.Confinement
import NativeWrappers.Proofs.ModelFile.RoundTrip
import NativeWrappers.Proofs.Relocation.Generation
import NativeWrappers.Proofs.Hierarchy.Positions
import NativeWrappers.Proofs.Shadowing
import NativeWrappers.Proofs.Hierarchy.Depth
import NativeWrappers.Proofs.Files.Overwriting
import NativeWrappers.Proofs.Hierarchy.DepthFirst
import NativeWrappers.Proofs.Detours
import NativeWrappers.Proofs.RepeatedSupertypes
import NativeWrappers.Proofs.CapabilityCheck
import NativeWrappers.Proofs.Refusal
import NativeWrappers.Proofs.MalformedStreams
import NativeWrappers.Proofs.CycleReport
import NativeWrappers.Proofs.QualifiedName
import NativeWrappers.Proofs.Command.Options
import NativeWrappers.Proofs.Diagnostic.Terminal
import NativeWrappers.Proofs.Index.Basic
import NativeWrappers.Proofs.Index.Stores
