import DataSchema.Check.Basic
import DataSchema.Check.Compile
import DataSchema.Check.Evaluate
import DataSchema.Check.Issue
import DataSchema.Check.Rules
import DataSchema.CommandLine.Answer
import DataSchema.CommandLine.Arguments
import DataSchema.CommandLine.Command
import DataSchema.CommandLine.FileReading
import DataSchema.CommandLine.FileTree
import DataSchema.CommandLine.Glob
import DataSchema.CommandLine.PathText
import DataSchema.CommandLine.Run
import DataSchema.CommandLine.Source
import DataSchema.CommandLine.Suites
import DataSchema.CommandLine.Validate
import DataSchema.Json.Fault
import DataSchema.Json.Key
import DataSchema.Json.Pointer
import DataSchema.Json.Reader
import DataSchema.Json.Scan
import DataSchema.Json.Text
import DataSchema.Json.Value
import DataSchema.Main
import DataSchema.Number.Binary64
import DataSchema.Number.Decimal
import DataSchema.Number.Scientific
import DataSchema.Options
import DataSchema.Pattern.Basic
import DataSchema.Pattern.Fault
import DataSchema.Pattern.LiteralTree
import DataSchema.Pattern.Machine
import DataSchema.Pattern.Match
import DataSchema.Pattern.Parse
import DataSchema.Pattern.Regex
import DataSchema.Pattern.Resolve
import DataSchema.Pattern.Size
import DataSchema.Pattern.Term
import DataSchema.Pattern.Utf8
import DataSchema.Proofs.Evaluation
import DataSchema.Proofs.Tree
import DataSchema.Registry
import DataSchema.Schema.Document
import DataSchema.Schema.Finding
import DataSchema.Schema.Keyword
import DataSchema.Schema.Node
import DataSchema.Schema.Reading
import DataSchema.Schema.Reference
import DataSchema.Schema.Same
import DataSchema.Schema.Shape
import DataSchema.Schema.Writing
import DataSchema.Suite
import DataSchema.Text.Calendar
import DataSchema.Text.Digit
import DataSchema.Text.Format
import DataSchema.Text.Identifier
import DataSchema.Text.Part
import DataSchema.Text.Shown
import DataSchema.Unicode.Age
import DataSchema.Unicode.Binary
import DataSchema.Unicode.CaseFolding
import DataSchema.Unicode.Category
import DataSchema.Unicode.CodeSet
import DataSchema.Unicode.Property
import DataSchema.Unicode.PropertyName
import DataSchema.Unicode.Recent
import DataSchema.Unicode.Script
import DataSchema.Unicode.Segmentation
import DataSchema.Proofs.Budget.Refinement
import DataSchema.Proofs.Compilation
import DataSchema.Proofs.Links.Reach
import DataSchema.Proofs.Links.Cycles
import DataSchema.Proofs.Budget.Sufficient
import DataSchema.Proofs.Meaning.Basic
import DataSchema.Proofs.Meaning.Rules
import DataSchema.Proofs.Meaning.Soundness
import DataSchema.Proofs.Build
import DataSchema.Proofs.Targets
import DataSchema.Proofs.Respelling.Basic
import DataSchema.Proofs.Respelling.Evaluation
import DataSchema.Proofs.Reachable
import DataSchema.Proofs.Json.WellFormed
import DataSchema.Proofs.Reading.Relation
import DataSchema.Proofs.Reading.Written
import DataSchema.Proofs.Reading.Again
import DataSchema.Proofs.Reading.Sources
import DataSchema.Proofs.Respelling.Documents
import DataSchema.Proofs.RoundTrip
import DataSchema.Proofs.DeepEqual.Canonical
import DataSchema.Proofs.DeepEqual.Repeats
import DataSchema.Proofs.Comparison
import DataSchema.Proofs.DeepEqual.Order
import DataSchema.Proofs.Json.Pointers
import DataSchema.Proofs.DeepEqual.Twins
import DataSchema.Proofs.DeepEqual.Evaluation
import DataSchema.Proofs.Json.Read
import DataSchema.Proofs.Parts
import DataSchema.Proofs.Stripping
import DataSchema.Proofs.WellMade
import DataSchema.Proofs.Forms.Relation
import DataSchema.Proofs.Forms.Pruning
import DataSchema.Proofs.Inlining.Basic
import DataSchema.Proofs.Inlining.Evaluation
import DataSchema.Proofs.Places
import DataSchema.Proofs.Forms.Merging
import DataSchema.Proofs.Forms.Stable
import DataSchema.Proofs.Shapes
import DataSchema.Proofs.Issues.Basic
import DataSchema.Proofs.Issues.Soundness
import DataSchema.Proofs.Reading.Rules
import DataSchema.Proofs.Mending
import DataSchema.Proofs.Budget.Overrun
import DataSchema.Proofs.Budget.Nesting
import DataSchema.Proofs.Reading.Findings
import DataSchema.Proofs.Remarks
import DataSchema.Proofs.Recursion
import DataSchema.Proofs.Bounds
import DataSchema.Proofs.Reading.Precedence
import DataSchema.Proofs.Reading.Located
import DataSchema.Proofs.Locations
import DataSchema.Proofs.Abbreviations
import DataSchema.Proofs.Integers
import DataSchema.Proofs.Dates
import DataSchema.Proofs.Multiples
import DataSchema.Proofs.Json.Readers
import DataSchema.Proofs.Json.Records
import DataSchema.Proofs.Paths
import DataSchema.Proofs.References
import DataSchema.Proofs.Suites
import DataSchema.Proofs.Identifiers
import DataSchema.Proofs.Patterns.PlaceSets
import DataSchema.Proofs.Patterns.Matching
import DataSchema.Proofs.Patterns.Languages
import DataSchema.Proofs.Patterns.Identifiers
import DataSchema.Proofs.Patterns.Size
import DataSchema.Proofs.Patterns.Reading
import DataSchema.Proofs.Patterns.Formats
import DataSchema.Proofs.Rounds
import DataSchema.Proofs.Reading.Misfits
import DataSchema.Proofs.Reading.Layouts
import DataSchema.Proofs.Reading.Likeness
import DataSchema.Proofs.Retouches
import DataSchema.Proofs.Positions
import DataSchema.Proofs.CommandLine.FileTrees
import DataSchema.Proofs.CommandLine.Inputs
import DataSchema.Proofs.CommandLine.Validation
