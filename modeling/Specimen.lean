import Specimen.Account
import Specimen.Args
import Specimen.Check.Config
import Specimen.Check.Verdict
import Specimen.CommandLine.Arguments
import Specimen.CommandLine.Options
import Specimen.CommandLine.Run
import Specimen.Compiler.Basic
import Specimen.Compiler.Compile
import Specimen.Compiler.Contains
import Specimen.Compiler.Intersection
import Specimen.Compiler.Plan
import Specimen.Descriptor.Basic
import Specimen.Descriptor.Dump
import Specimen.Descriptor.Guard
import Specimen.Document.Lowering
import Specimen.Document.Node
import Specimen.Document.Reader
import Specimen.Document.Writer
import Specimen.Domain.Family
import Specimen.Domain.Space
import Specimen.Error
import Specimen.Fields
import Specimen.Files.Disk
import Specimen.Files.Glob
import Specimen.Filter.Arithmetic
import Specimen.Filter.Data
import Specimen.Filter.Eval
import Specimen.Filter.Native
import Specimen.Filter.Outputs
import Specimen.Filter.Parser
import Specimen.Filter.Prelude
import Specimen.Filter.Program
import Specimen.Filter.Reading
import Specimen.Filter.Scope
import Specimen.Filter.Term
import Specimen.Filter.Token
import Specimen.Generator.Basic
import Specimen.Generator.Call
import Specimen.Generator.Choices
import Specimen.Generator.Draw
import Specimen.Generator.Repair
import Specimen.Json.Basic
import Specimen.Json.Decimal
import Specimen.Json.Mismatch
import Specimen.Json.Pointer
import Specimen.Json.Reader
import Specimen.Json.Reading
import Specimen.Json.Writer
import Specimen.Main
import Specimen.Number.Basic
import Specimen.Number.Layout
import Specimen.Number.Nearest
import Specimen.Number.Shortest
import Specimen.Number.Text
import Specimen.Proofs.Check.Samples
import Specimen.Proofs.Check.Trials
import Specimen.Proofs.CommandLine.AllOrNothing
import Specimen.Proofs.CommandLine.Checks
import Specimen.Proofs.CommandLine.Inputs
import Specimen.Proofs.CommandLine.Samples
import Specimen.Proofs.Compiler.Asking
import Specimen.Proofs.Compiler.Blame
import Specimen.Proofs.Compiler.Checked
import Specimen.Proofs.Compiler.Compilable
import Specimen.Proofs.Compiler.Contains
import Specimen.Proofs.Compiler.Depth
import Specimen.Proofs.Compiler.Failures
import Specimen.Proofs.Compiler.Frame
import Specimen.Proofs.Compiler.Labels
import Specimen.Proofs.Compiler.Ledger
import Specimen.Proofs.Compiler.Memoryless
import Specimen.Proofs.Compiler.Origin
import Specimen.Proofs.Compiler.PanicFree
import Specimen.Proofs.Compiler.Plan
import Specimen.Proofs.Compiler.Registry
import Specimen.Proofs.Compiler.Renumbered
import Specimen.Proofs.Compiler.Shapes
import Specimen.Proofs.Compiler.Soundness
import Specimen.Proofs.Compiler.Step
import Specimen.Proofs.Compiler.Tables
import Specimen.Proofs.Compiler.Termination
import Specimen.Proofs.Descriptor.Congruence
import Specimen.Proofs.Descriptor.Demands
import Specimen.Proofs.Descriptor.Guard
import Specimen.Proofs.Descriptor.Reached
import Specimen.Proofs.Descriptor.Renumbered
import Specimen.Proofs.Descriptor.Said
import Specimen.Proofs.Document.Declarations
import Specimen.Proofs.Document.Inlining
import Specimen.Proofs.Document.Loading
import Specimen.Proofs.Document.Lowering
import Specimen.Proofs.Document.Places
import Specimen.Proofs.Document.Reading
import Specimen.Proofs.Document.References
import Specimen.Proofs.Document.RoundTrip
import Specimen.Proofs.Document.Said
import Specimen.Proofs.Document.Sharing
import Specimen.Proofs.Document.Sites
import Specimen.Proofs.Document.Strictness
import Specimen.Proofs.Document.Tidy
import Specimen.Proofs.Document.Trees
import Specimen.Proofs.Domain.Family
import Specimen.Proofs.Fields
import Specimen.Proofs.Files.Disk
import Specimen.Proofs.Filter.FirstOutput
import Specimen.Proofs.Generator.Budget
import Specimen.Proofs.Generator.Call
import Specimen.Proofs.Generator.Checked
import Specimen.Proofs.Generator.Draws
import Specimen.Proofs.Generator.Idle
import Specimen.Proofs.Generator.Induction
import Specimen.Proofs.Generator.LeastChange
import Specimen.Proofs.Generator.Patience
import Specimen.Proofs.Generator.Rejections
import Specimen.Proofs.Generator.Repair
import Specimen.Proofs.Generator.Replay
import Specimen.Proofs.Generator.Starving
import Specimen.Proofs.Generator.Support
import Specimen.Proofs.Intersection.Bracketing
import Specimen.Proofs.Intersection.Conjunction
import Specimen.Proofs.Intersection.Disjoint
import Specimen.Proofs.Intersection.Fallback
import Specimen.Proofs.Intersection.Fieldwise
import Specimen.Proofs.Intersection.Guards
import Specimen.Proofs.Intersection.Merge
import Specimen.Proofs.Intersection.Merged
import Specimen.Proofs.Intersection.Order
import Specimen.Proofs.Intersection.Outcome
import Specimen.Proofs.Intersection.Pooled
import Specimen.Proofs.Intersection.Rules
import Specimen.Proofs.Json.Quoted
import Specimen.Proofs.Json.Reading
import Specimen.Proofs.Json.Visible
import Specimen.Proofs.Number.Nearest
import Specimen.Proofs.Number.Shortest
import Specimen.Proofs.Number.Text
import Specimen.Proofs.Related
import Specimen.Proofs.Value.Bridge
import Specimen.Proofs.Value.Display
import Specimen.Proofs.Value.Equality
import Specimen.Proofs.Value.Equivalence
import Specimen.Proofs.Value.Json
import Specimen.Proofs.Value.Reordered
import Specimen.Regex.Basic
import Specimen.Regex.ByteRow
import Specimen.Regex.Class
import Specimen.Regex.Escape
import Specimen.Regex.Flags
import Specimen.Regex.Shape
import Specimen.Regex.Size
import Specimen.Regex.Text
import Specimen.Regex.Trie
import Specimen.Text.Printable
import Specimen.Text.Quoted
import Specimen.Unicode.Age
import Specimen.Unicode.Break
import Specimen.Unicode.CaseFold
import Specimen.Unicode.Category
import Specimen.Unicode.CharSet
import Specimen.Unicode.Lookup
import Specimen.Unicode.Property
import Specimen.Unicode.Script
import Specimen.Value.Basic
import Specimen.Value.Display
import Specimen.Value.Json
