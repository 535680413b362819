import ColumnRoles.Column
import ColumnRoles.CommandLine
import ColumnRoles.CommandLine.Arguments
import ColumnRoles.CommandLine.Screen
import ColumnRoles.CommandLine.Style
import ColumnRoles.Confidence
import ColumnRoles.Decimal.Shortest
import ColumnRoles.Decimal.Text
import ColumnRoles.Decision
import ColumnRoles.Delimited
import ColumnRoles.Digest
import ColumnRoles.Engine
import ColumnRoles.Engine.Document
import ColumnRoles.Error
import ColumnRoles.Files
import ColumnRoles.Json
import ColumnRoles.Json.Document
import ColumnRoles.Json.Fields
import ColumnRoles.Json.Printer
import ColumnRoles.Json.Token
import ColumnRoles.Main
import ColumnRoles.OrderedMap
import ColumnRoles.Pattern
import ColumnRoles.Pattern.Automaton
import ColumnRoles.Pattern.Draft
import ColumnRoles.Pattern.Reader
import ColumnRoles.Pattern.Simplify
import ColumnRoles.Report
import ColumnRoles.Report.Document
import ColumnRoles.Resolver
import ColumnRoles.Role
import ColumnRoles.Rule
import ColumnRoles.Rule.Builtin
import ColumnRoles.Rule.Naming
import ColumnRoles.Ruleset
import ColumnRoles.Ruleset.Document
import ColumnRoles.Signal
import ColumnRoles.Snapshot
import ColumnRoles.Snapshot.Document
import ColumnRoles.Snapshot.Format
import ColumnRoles.Snapshot.Loader
import ColumnRoles.Snapshot.Records
import ColumnRoles.Text.Blank
import ColumnRoles.Text.ByteRange
import ColumnRoles.Text.Case
import ColumnRoles.Text.CodeRange
import ColumnRoles.Text.CodeSet
import ColumnRoles.Text.Fold
import ColumnRoles.Text.Inspect
import ColumnRoles.Text.Symbol
import ColumnRoles.Text.Table.CaseIgnorable
import ColumnRoles.Text.Table.Cased
import ColumnRoles.Text.Table.Digit
import ColumnRoles.Text.Table.Extender
import ColumnRoles.Text.Table.Fold
import ColumnRoles.Text.Table.Lower
import ColumnRoles.Text.Table.Unprintable
import ColumnRoles.Text.Table.WordPart
import ColumnRoles.Timestamp
import ColumnRoles.Warehouse
import ColumnRoles.Warehouse.Document
import ColumnRoles.Proofs.Agreement
import ColumnRoles.Proofs.Outcome
import ColumnRoles.Proofs.Rearrangement
import ColumnRoles.Proofs.Problems
import ColumnRoles.Proofs.Reported
import ColumnRoles.Proofs.Columns
import ColumnRoles.Proofs.Filing
import ColumnRoles.Proofs.Run
import ColumnRoles.Proofs.Isolation
import ColumnRoles.Proofs.Matching
import ColumnRoles.Proofs.Names
import ColumnRoles.Proofs.Strongest
import ColumnRoles.Proofs.Judgement
import ColumnRoles.Proofs.Ratio
import ColumnRoles.Proofs.DecisionTable
import ColumnRoles.Proofs.Locality
import ColumnRoles.Proofs.Registry
import ColumnRoles.Proofs.RuleOrder
import ColumnRoles.Proofs.Interleaving
import ColumnRoles.Proofs.Traversal
import ColumnRoles.Proofs.Tables
import ColumnRoles.Proofs.Trimming
import ColumnRoles.Proofs.Digits
import ColumnRoles.Proofs.Encoding
import ColumnRoles.Proofs.Lines
import ColumnRoles.Proofs.DelimitedText
import ColumnRoles.Proofs.Tokens
import ColumnRoles.Proofs.Reading
import ColumnRoles.Proofs.Members
import ColumnRoles.Proofs.DocumentText
import ColumnRoles.Proofs.WellFormed
import ColumnRoles.Proofs.ReportText
import ColumnRoles.Proofs.Winner
import ColumnRoles.Proofs.FurtherEvidence
import ColumnRoles.Proofs.Consensus
import ColumnRoles.Proofs.WordEnds
import ColumnRoles.Proofs.IdentifierNames
import ColumnRoles.Proofs.Configuration
import ColumnRoles.Proofs.Cursor
import ColumnRoles.Proofs.DeclaredTypes
import ColumnRoles.Proofs.Placement
import ColumnRoles.Proofs.Retuning
import ColumnRoles.Proofs.OnePath
import ColumnRoles.Proofs.Counts
import ColumnRoles.Proofs.Summary
