import ImportLint.Check
import ImportLint.Command.Line
import ImportLint.Command.Outcome
import ImportLint.Command.Run
import ImportLint.Command.Source
import ImportLint.Command.Template
import ImportLint.Command.World
import ImportLint.Config.Entry
import ImportLint.Config.Error
import ImportLint.Config.Load
import ImportLint.Config.Preset
import ImportLint.Cycle.Components
import ImportLint.Cycle.Search
import ImportLint.Document.Fault
import ImportLint.Document.Shape
import ImportLint.Document.Tree
import ImportLint.Graph.Basic
import ImportLint.Graph.Standing
import ImportLint.Import.Inventory
import ImportLint.Import.Kind
import ImportLint.Import.Record
import ImportLint.Json.Lexeme
import ImportLint.Json.Number
import ImportLint.Json.Parse
import ImportLint.Json.Value
import ImportLint.Main
import ImportLint.Pattern.Bracket
import ImportLint.Pattern.CharSet
import ImportLint.Pattern.Escape
import ImportLint.Pattern.Glob
import ImportLint.Pattern.Language
import ImportLint.Pattern.Outline
import ImportLint.Pattern.Parse
import ImportLint.Pattern.Regex
import ImportLint.Pattern.Size
import ImportLint.Proofs.Check.Boundaries
import ImportLint.Proofs.Check.Content
import ImportLint.Proofs.Check.Edges
import ImportLint.Proofs.Check.ElementNames
import ImportLint.Proofs.Check.ElementOrder
import ImportLint.Proofs.Check.Exempt
import ImportLint.Proofs.Check.FurtherImports
import ImportLint.Proofs.Check.Lines
import ImportLint.Proofs.Check.Modules
import ImportLint.Proofs.Check.Rearranged
import ImportLint.Proofs.Check.Recommended
import ImportLint.Proofs.Check.Repeats
import ImportLint.Proofs.Check.Severity
import ImportLint.Proofs.Check.Split
import ImportLint.Proofs.Check.Tightened
import ImportLint.Proofs.Check.Union
import ImportLint.Proofs.Command.Output
import ImportLint.Proofs.Command.Source
import ImportLint.Proofs.Command.Status
import ImportLint.Proofs.Config.Elements
import ImportLint.Proofs.Config.Faults
import ImportLint.Proofs.Config.Overrides
import ImportLint.Proofs.Config.Places
import ImportLint.Proofs.Config.Reading
import ImportLint.Proofs.Config.Rearranged
import ImportLint.Proofs.Config.Recommended
import ImportLint.Proofs.Config.Respelt
import ImportLint.Proofs.Config.Severity
import ImportLint.Proofs.Config.Strict
import ImportLint.Proofs.Cycle.Certificate
import ImportLint.Proofs.Cycle.Classes
import ImportLint.Proofs.Cycle.Components
import ImportLint.Proofs.Cycle.Invariant
import ImportLint.Proofs.Cycle.Path
import ImportLint.Proofs.Cycle.Run
import ImportLint.Proofs.Cycle.Turns
import ImportLint.Proofs.Document.Padded
import ImportLint.Proofs.Document.Record
import ImportLint.Proofs.Document.Respelt
import ImportLint.Proofs.Document.Value
import ImportLint.Proofs.Graph.Coherence
import ImportLint.Proofs.Graph.Content
import ImportLint.Proofs.Graph.FirstMention
import ImportLint.Proofs.Graph.Incidence
import ImportLint.Proofs.Graph.Standing
import ImportLint.Proofs.Graph.Union
import ImportLint.Proofs.Import.Padded
import ImportLint.Proofs.Import.Written
import ImportLint.Proofs.Json.Lexing
import ImportLint.Proofs.Json.Written
import ImportLint.Proofs.Pattern.Glob
import ImportLint.Proofs.Pattern.Limits
import ImportLint.Proofs.Pattern.Matching
import ImportLint.Proofs.Pattern.Spelling
import ImportLint.Proofs.Report.Lines
import ImportLint.Proofs.Report.Order
import ImportLint.Proofs.Report.Read
import ImportLint.Proofs.Report.Sorted
import ImportLint.Proofs.Report.Ties
import ImportLint.Proofs.Report.Written
import ImportLint.Proofs.Rule.Problems
import ImportLint.Proofs.Rule.Set
import ImportLint.Proofs.Sequence
import ImportLint.Proofs.Unicode.Ranges
import ImportLint.Report.Basic
import ImportLint.Report.Violation
import ImportLint.Rule.Basic
import ImportLint.Rule.Element
import ImportLint.Rule.Error
import ImportLint.Rule.Pattern
import ImportLint.Rule.Policy
import ImportLint.Rule.Set
import ImportLint.Rule.Severity
import ImportLint.Text.Decimal
import ImportLint.Text.Hex
import ImportLint.Text.Quoted
import ImportLint.Toml.Number
import ImportLint.Toml.Parse
import ImportLint.Toml.Table
import ImportLint.Toml.Text
import ImportLint.Unicode.Boundary
import ImportLint.Unicode.CaseFold
import ImportLint.Unicode.Category
import ImportLint.Unicode.Edition
import ImportLint.Unicode.Encoding
import ImportLint.Unicode.Property
import ImportLint.Unicode.Ranges
import ImportLint.Unicode.Script
