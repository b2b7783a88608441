import DotJs.Batch
import DotJs.CommandLine.Argument
import DotJs.CommandLine.Run
import DotJs.Decimal.Binary64
import DotJs.Discovery
import DotJs.Edit
import DotJs.Extension
import DotJs.FilePath
import DotJs.FileSystem
import DotJs.Glob
import DotJs.Ignore.Rule
import DotJs.Ignore.Walk
import DotJs.Ignore.Wildcard
import DotJs.Json.Fault
import DotJs.Json.Printer
import DotJs.Json.Reader
import DotJs.Json.Value
import DotJs.Language
import DotJs.Main
import DotJs.Position
import DotJs.Program
import DotJs.Proofs.AddedExtension
import DotJs.Proofs.Address
import DotJs.Proofs.AllClear
import DotJs.Proofs.BatchRun
import DotJs.Proofs.Boundaries
import DotJs.Proofs.CheckedRuns
import DotJs.Proofs.Course
import DotJs.Proofs.DisplayedPaths
import DotJs.Proofs.DistinctFiles
import DotJs.Proofs.Explained
import DotJs.Proofs.FatalErrors
import DotJs.Proofs.ForceRules
import DotJs.Proofs.ForcedMore
import DotJs.Proofs.FoundFiles
import DotJs.Proofs.IgnoredPaths
import DotJs.Proofs.Insertion
import DotJs.Proofs.Interleaving
import DotJs.Proofs.JsonGrammar
import DotJs.Proofs.JsonReading
import DotJs.Proofs.JsonSkipping
import DotJs.Proofs.JsonTokens
import DotJs.Proofs.JsonTree
import DotJs.Proofs.LastSegment
import DotJs.Proofs.LinesAndColumns
import DotJs.Proofs.LiteralExtension
import DotJs.Proofs.LiteralGrammar
import DotJs.Proofs.LiteralReader
import DotJs.Proofs.LiteralText
import DotJs.Proofs.MovedProject
import DotJs.Proofs.OnlyInserts
import DotJs.Proofs.OutermostEdits
import DotJs.Proofs.Patch
import DotJs.Proofs.PathOrder
import DotJs.Proofs.Placement
import DotJs.Proofs.Quoted
import DotJs.Proofs.Rediscovery
import DotJs.Proofs.Relocation
import DotJs.Proofs.RepeatedPasses
import DotJs.Proofs.ReportDecoding
import DotJs.Proofs.SecondPass
import DotJs.Proofs.SecondRun
import DotJs.Proofs.SettingsFields
import DotJs.Proofs.SettingsReading
import DotJs.Proofs.SortedLists
import DotJs.Proofs.Splicing
import DotJs.Proofs.SplicingInTurn
import DotJs.Proofs.VisitingOrder
import DotJs.Proofs.Walk
import DotJs.Proofs.WrittenValue
import DotJs.Regex.Bracket
import DotJs.Regex.CharSet
import DotJs.Regex.Matching
import DotJs.Regex.Parse
import DotJs.Regex.Reader
import DotJs.Report
import DotJs.Rewriting
import DotJs.Rules
import DotJs.Scope
import DotJs.Settings
import DotJs.SettingsFile
import DotJs.Sorting
import DotJs.Source.Annotation
import DotJs.Source.Arrow
import DotJs.Source.Binding
import DotJs.Source.Class
import DotJs.Source.Declaration
import DotJs.Source.Function
import DotJs.Source.Markup
import DotJs.Source.ModuleItem
import DotJs.Source.Name
import DotJs.Source.Nonterminal
import DotJs.Source.Operand
import DotJs.Source.Operator
import DotJs.Source.Parse
import DotJs.Source.Parser
import DotJs.Source.Scanner
import DotJs.Source.Shape
import DotJs.Source.Statement
import DotJs.Source.Token
import DotJs.StringLiteral
import DotJs.Text
import DotJs.Unicode.Binary
import DotJs.Unicode.Category
import DotJs.Unicode.Folding
import DotJs.Unicode.Property
import DotJs.Unicode.Runs
import DotJs.Unicode.Script
import DotJs.Verdict
