import ComponentSchema.Application
import ComponentSchema.FileTree
import ComponentSchema.Main
import ComponentSchema.Registry
import ComponentSchema.Proofs.DottedName
import ComponentSchema.Proofs.Grouping
import ComponentSchema.Proofs.NormalForm
import ComponentSchema.Proofs.ExactValue
import ComponentSchema.Proofs.CompiledFields
import ComponentSchema.Proofs.FieldTable
import ComponentSchema.Proofs.Findings
import ComponentSchema.Proofs.OverrideRules
import ComponentSchema.Proofs.AlikeSpecs
import ComponentSchema.Proofs.Conformance
import ComponentSchema.Proofs.Reached
import ComponentSchema.Proofs.IssueOrder
import ComponentSchema.Proofs.Placement
import ComponentSchema.Proofs.Partition
import ComponentSchema.Proofs.NestedSpelling
import ComponentSchema.Proofs.SelfNesting
import ComponentSchema.Proofs.Interleaving
import ComponentSchema.Proofs.FirstInsert
import ComponentSchema.Proofs.Provenance
import ComponentSchema.Proofs.CallFrame
import ComponentSchema.Proofs.Agreement
import ComponentSchema.Proofs.Populated
import ComponentSchema.Proofs.ForgivenAbsence
import ComponentSchema.Proofs.Warnings
import ComponentSchema.Proofs.PathParts
import ComponentSchema.Proofs.Confinement
import ComponentSchema.Proofs.DecodedRecords
import ComponentSchema.Proofs.GenuineTypes
import ComponentSchema.Proofs.RoundTrip
import ComponentSchema.Proofs.PrintedSpec
import ComponentSchema.Proofs.MachineConversions
import ComponentSchema.Proofs.SameRules
import ComponentSchema.Proofs.TextBytes
import ComponentSchema.Proofs.LetterCase
import ComponentSchema.Proofs.ExampleReports
import ComponentSchema.Proofs.SpecGrammar
import ComponentSchema.Proofs.UndeclaredMembers
import ComponentSchema.Proofs.KebabCase
import ComponentSchema.Proofs.ShownTree
import ComponentSchema.Proofs.ReportText
import ComponentSchema.Proofs.FailureOrder
