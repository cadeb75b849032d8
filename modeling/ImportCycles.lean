import ImportCycles.CommandLine.Command
import ImportCycles.CommandLine.Help
import ImportCycles.CommandLine.Parse
import ImportCycles.CommandLine.Program
import ImportCycles.CommandLine.Spec
import ImportCycles.Config.File
import ImportCycles.Config.Settings
import ImportCycles.Cycle.Basic
import ImportCycles.Cycle.Search
import ImportCycles.Decimal.Double
import ImportCycles.Diagnostic
import ImportCycles.Discovery
import ImportCycles.Disk
import ImportCycles.Drawing
import ImportCycles.Drawing.Ascii
import ImportCycles.Drawing.Dot
import ImportCycles.Drawing.Mermaid
import ImportCycles.Drawing.Numbered
import ImportCycles.Drawing.Picture
import ImportCycles.Error
import ImportCycles.Event
import ImportCycles.Execution
import ImportCycles.Failure
import ImportCycles.FileId
import ImportCycles.Glob
import ImportCycles.Graph.Basic
import ImportCycles.Graph.Component
import ImportCycles.Graph.Numbering
import ImportCycles.Graph.Reach
import ImportCycles.Graph.Slots
import ImportCycles.Graph.Snapshot
import ImportCycles.Graph.Steps
import ImportCycles.Lint.Linter
import ImportCycles.Lint.Report
import ImportCycles.Main
import ImportCycles.Path.Component
import ImportCycles.Path.Parts
import ImportCycles.Progress
import ImportCycles.Proofs.Components
import ImportCycles.Proofs.Edges
import ImportCycles.Proofs.LastVersions
import ImportCycles.Proofs.Order
import ImportCycles.Proofs.Reach
import ImportCycles.Proofs.Runs
import ImportCycles.Proofs.SameImports
import ImportCycles.Proofs.Search
import ImportCycles.Proofs.ShortestCycles
import ImportCycles.Proofs.Walk
import ImportCycles.Proofs.DisjointReports
import ImportCycles.Proofs.LastMember
import ImportCycles.Proofs.SingleImports
import ImportCycles.Proofs.CyclicFiles
import ImportCycles.Proofs.StaleImports
import ImportCycles.Proofs.StrongComponents
import ImportCycles.Proofs.CycleMarks
import ImportCycles.Proofs.OrderedEdges
import ImportCycles.Proofs.SlotStore
import ImportCycles.Proofs.Masking
import ImportCycles.Proofs.Recognisers
import ImportCycles.Proofs.LiteralSpecifiers
import ImportCycles.Proofs.StatementGrammar
import ImportCycles.Proofs.WrittenStatements
import ImportCycles.Proofs.LineStarts
import ImportCycles.Proofs.ScannedPrograms
import ImportCycles.Proofs.DepthLimits
import ImportCycles.Proofs.EitherEnd
import ImportCycles.Proofs.PrunedSearch
import ImportCycles.Proofs.PlainCycles
import ImportCycles.Text.Lines
import ImportCycles.Source.Checked
import ImportCycles.Proofs.LinePositions
import ImportCycles.Proofs.StatementLocations
import ImportCycles.Graph.WayBack
import ImportCycles.Proofs.WayBack
import ImportCycles.Proofs.GreedySelection
import ImportCycles.Proofs.Entrances
import ImportCycles.Proofs.Relinting
import ImportCycles.Proofs.NormalForms
import ImportCycles.Proofs.ShownPaths
import ImportCycles.Proofs.Lookups
import ImportCycles.Proofs.ResolvedFiles
import ImportCycles.Proofs.UnreadableFiles
import ImportCycles.Proofs.DiscoveredFiles
import ImportCycles.Proofs.LeadingComments
import ImportCycles.Proofs.ReadingBack
import ImportCycles.Proofs.WorkflowCommands
import ImportCycles.Proofs.GroupedDiagnostics
import ImportCycles.Proofs.Markup
import ImportCycles.Proofs.IndentedMarkup
import ImportCycles.Proofs.TestCases
import ImportCycles.Proofs.CleanExtensions
import ImportCycles.Proofs.StatementReaders
import ImportCycles.Proofs.DotGraphs
import ImportCycles.Proofs.MermaidDiagrams
import ImportCycles.Proofs.Numberings
import ImportCycles.Proofs.SameDrawings
import ImportCycles.Proofs.DrawnCycles
import ImportCycles.Graph.Mates
import ImportCycles.Cycle.PathSearch
import ImportCycles.Source.ByteMask
import ImportCycles.Source.Pattern
import ImportCycles.Proofs.CycleMates
import ImportCycles.Proofs.FirstPaths
import ImportCycles.Proofs.SearchQueue
import ImportCycles.Proofs.AlignedMasks
import ImportCycles.Proofs.StatementPatterns
import ImportCycles.Proofs.DistinctStatements
import ImportCycles.Proofs.SnippetBounds
