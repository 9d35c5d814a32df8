import CallMigration.Checker.Access
import CallMigration.Checker.Declared
import CallMigration.Checker.Environment
import CallMigration.Checker.Expression
import CallMigration.Checker.Member
import CallMigration.Checker.Outcome
import CallMigration.Checker.Pattern
import CallMigration.Checker.Question
import CallMigration.Checker.TypeAt
import CallMigration.Cli.Arguments
import CallMigration.Cli.Report
import CallMigration.Cli.Run
import CallMigration.Cli.Sources
import CallMigration.Commit
import CallMigration.Config.Decode
import CallMigration.Config.Settings
import CallMigration.Decimal.Binary64
import CallMigration.Decimal.Shortest
import CallMigration.Diagnostic
import CallMigration.Disk.Basic
import CallMigration.Disk.Load
import CallMigration.Disk.Resolve
import CallMigration.Disk.Visit
import CallMigration.Main
import CallMigration.Migration
import CallMigration.PathName
import CallMigration.Printing.Fragment
import CallMigration.Printing.Precedence
import CallMigration.Printing.Print
import CallMigration.Printing.Slot
import CallMigration.Program
import CallMigration.Proofs.Checker.Calls
import CallMigration.Proofs.Checker.Destructuring
import CallMigration.Proofs.Checker.Expansion
import CallMigration.Proofs.Checker.Indexed
import CallMigration.Proofs.Checker.Nesting
import CallMigration.Proofs.Checker.Persistence
import CallMigration.Proofs.Checker.Realm
import CallMigration.Proofs.Checker.Returns
import CallMigration.Proofs.Checker.Shapes
import CallMigration.Proofs.Checker.Statements
import CallMigration.Proofs.Checker.TypeAt
import CallMigration.Proofs.Checker.Unions
import CallMigration.Proofs.Cli.Changes
import CallMigration.Proofs.Cli.Sources
import CallMigration.Proofs.Cli.Targets
import CallMigration.Proofs.Commit.Batch
import CallMigration.Proofs.Commit.Interrupted
import CallMigration.Proofs.Commit.Sequence
import CallMigration.Proofs.Decimal.Range
import CallMigration.Proofs.Decimal.Shortest
import CallMigration.Proofs.Decimal.Whole
import CallMigration.Proofs.Disk.Canonical
import CallMigration.Proofs.Disk.Links
import CallMigration.Proofs.Disk.Replace
import CallMigration.Proofs.Disk.Tree
import CallMigration.Proofs.Disk.Visits
import CallMigration.Proofs.Migration.Globals
import CallMigration.Proofs.Migration.Isolation
import CallMigration.Proofs.Migration.Opening
import CallMigration.Proofs.Migration.Order
import CallMigration.Proofs.Migration.Policies
import CallMigration.Proofs.Migration.Untracked
import CallMigration.Proofs.Migration.Valid
import CallMigration.Proofs.Migration.Written
import CallMigration.Proofs.PathName
import CallMigration.Proofs.Printing.Balance
import CallMigration.Proofs.Printing.Context
import CallMigration.Proofs.Printing.Edges
import CallMigration.Proofs.Printing.Grammar
import CallMigration.Proofs.Printing.Layout
import CallMigration.Proofs.Printing.Merging
import CallMigration.Proofs.Printing.Numerals
import CallMigration.Proofs.Printing.Parentheses
import CallMigration.Proofs.Printing.Parts
import CallMigration.Proofs.Printing.Places
import CallMigration.Proofs.Printing.Replacement
import CallMigration.Proofs.Printing.Site
import CallMigration.Proofs.Printing.StringLiteral
import CallMigration.Proofs.Printing.Subject
import CallMigration.Proofs.Printing.Unambiguous
import CallMigration.Proofs.Program.Loaded
import CallMigration.Proofs.Program.Route
import CallMigration.Proofs.Program.Target
import CallMigration.Proofs.Revision.Comparison
import CallMigration.Proofs.Revision.Offers
import CallMigration.Proofs.Revision.Walk
import CallMigration.Proofs.Revision.Weave
import CallMigration.Proofs.Scope.Imports
import CallMigration.Proofs.Scope.Region
import CallMigration.Proofs.Scope.Shared
import CallMigration.Proofs.Scope.Ways
import CallMigration.Proofs.Syntax.Chain
import CallMigration.Proofs.Syntax.Faults
import CallMigration.Proofs.Syntax.Lookup
import CallMigration.Proofs.Syntax.Node
import CallMigration.Proofs.Syntax.WellFormed
import CallMigration.Proofs.Text.Finalize
import CallMigration.Proofs.Text.Overlay
import CallMigration.Proofs.Text.Registration
import CallMigration.Proofs.Text.Slice
import CallMigration.Proofs.Types.Closed
import CallMigration.Proofs.Types.Joining
import CallMigration.Proofs.Types.Normal
import CallMigration.Proofs.Types.Renumber
import CallMigration.Proofs.Types.Stripping
import CallMigration.Revision
import CallMigration.Scope.Binding
import CallMigration.Scope.Resolve
import CallMigration.Source
import CallMigration.Syntax.Node
import CallMigration.Syntax.Outline
import CallMigration.Syntax.Tree
import CallMigration.Text.Blank
import CallMigration.Text.Edit
import CallMigration.Text.Expectation
import CallMigration.Text.Fingerprint
import CallMigration.Text.Identifier
import CallMigration.Text.Letter
import CallMigration.Text.LineDiff
import CallMigration.Text.Overlay
import CallMigration.Text.Printable
import CallMigration.Text.Quoted
import CallMigration.Text.Slice
import CallMigration.Text.Split
import CallMigration.Toml.Chars
import CallMigration.Toml.Document
import CallMigration.Toml.Quoted
import CallMigration.Toml.Scalar
import CallMigration.Toml.Table
import CallMigration.Toml.Value
import CallMigration.Types.StaticType
import CallMigration.Workspace
