import WarehouseImport.Column.Basic
import WarehouseImport.Column.Collection
import WarehouseImport.Column.DataType
import WarehouseImport.Column.Document
import WarehouseImport.Column.SchemaField
import WarehouseImport.Command.Document
import WarehouseImport.Command.File
import WarehouseImport.Command.Options
import WarehouseImport.Command.Session
import WarehouseImport.Command.Table
import WarehouseImport.Config.Basic
import WarehouseImport.Config.EnvironmentFile
import WarehouseImport.Config.Setting
import WarehouseImport.Failure.Backend
import WarehouseImport.Failure.Basic
import WarehouseImport.Failure.Decoding
import WarehouseImport.Failure.Document
import WarehouseImport.Failure.Overflow
import WarehouseImport.Import.Destination
import WarehouseImport.Import.Document
import WarehouseImport.Import.Filling
import WarehouseImport.Import.FromFile
import WarehouseImport.Import.FromTable
import WarehouseImport.Import.Handler
import WarehouseImport.Import.Mapping
import WarehouseImport.Import.Reconciliation
import WarehouseImport.Import.Response
import WarehouseImport.Import.Source
import WarehouseImport.Import.Staging
import WarehouseImport.Import.Writing
import WarehouseImport.Json.Display
import WarehouseImport.Json.Lenient
import WarehouseImport.Json.Printer
import WarehouseImport.Json.Reader
import WarehouseImport.Json.Value
import WarehouseImport.Name.Index
import WarehouseImport.Name.Keyed
import WarehouseImport.Name.Named
import WarehouseImport.Number.Double
import WarehouseImport.Number.Layout
import WarehouseImport.Number.Numeral
import WarehouseImport.Number.Shortest
import WarehouseImport.Payload.Checked
import WarehouseImport.Proofs.Collections
import WarehouseImport.Proofs.Config.Given
import WarehouseImport.Proofs.Config.Normal
import WarehouseImport.Proofs.Config.Numerals
import WarehouseImport.Proofs.Config.Override
import WarehouseImport.Proofs.Definitions
import WarehouseImport.Proofs.Drops
import WarehouseImport.Proofs.Failures.Decoding
import WarehouseImport.Proofs.Failures.Messages
import WarehouseImport.Proofs.Failures.Overflow
import WarehouseImport.Proofs.Failures.Reporting
import WarehouseImport.Proofs.Failures.Search
import WarehouseImport.Proofs.Failures.Translation
import WarehouseImport.Proofs.Names
import WarehouseImport.Proofs.Payload.Aliases
import WarehouseImport.Proofs.Payload.Commands
import WarehouseImport.Proofs.Payload.Documents
import WarehouseImport.Proofs.Payload.Quoting
import WarehouseImport.Proofs.Response.Clones
import WarehouseImport.Proofs.Response.Reports
import WarehouseImport.Proofs.Response.Staged
import WarehouseImport.Proofs.Results
import WarehouseImport.Proofs.Routing.Assignment
import WarehouseImport.Proofs.Routing.Columns
import WarehouseImport.Proofs.Routing.Composition
import WarehouseImport.Proofs.Routing.Copies
import WarehouseImport.Proofs.Routing.Descent
import WarehouseImport.Proofs.Routing.Empties
import WarehouseImport.Proofs.Routing.Insertions
import WarehouseImport.Proofs.Routing.KeyedCopies
import WarehouseImport.Proofs.Routing.Layouts
import WarehouseImport.Proofs.Routing.Moves
import WarehouseImport.Proofs.Routing.Outlines
import WarehouseImport.Proofs.Routing.Plans
import WarehouseImport.Proofs.Routing.Resolution
import WarehouseImport.Proofs.Routing.Restriction
import WarehouseImport.Proofs.Routing.Routes
import WarehouseImport.Proofs.Routing.Selection
import WarehouseImport.Proofs.Routing.StagedColumns
import WarehouseImport.Proofs.Routing.Subqueries
import WarehouseImport.Proofs.Routing.Types
import WarehouseImport.Proofs.Routing.Typing
import WarehouseImport.Proofs.Routing.Written
import WarehouseImport.Proofs.Run.Action
import WarehouseImport.Proofs.Run.Alike
import WarehouseImport.Proofs.Run.Around
import WarehouseImport.Proofs.Run.Ending
import WarehouseImport.Proofs.Run.Every
import WarehouseImport.Proofs.Run.Exchange
import WarehouseImport.Proofs.Run.FromFile
import WarehouseImport.Proofs.Run.FromTable
import WarehouseImport.Proofs.Run.Handler
import WarehouseImport.Proofs.Run.Intervals
import WarehouseImport.Proofs.Run.OpenLog
import WarehouseImport.Proofs.Run.Opening
import WarehouseImport.Proofs.Run.Order
import WarehouseImport.Proofs.Run.Quiet
import WarehouseImport.Proofs.Run.Sent
import WarehouseImport.Proofs.Run.Staging
import WarehouseImport.Proofs.Run.Steady
import WarehouseImport.Proofs.Run.Tally
import WarehouseImport.Proofs.Run.Trace
import WarehouseImport.Proofs.Run.Verdict
import WarehouseImport.Proofs.Run.Warehouse
import WarehouseImport.Proofs.Safety.Cleanup
import WarehouseImport.Proofs.Safety.Clearing
import WarehouseImport.Proofs.Safety.CreateMode
import WarehouseImport.Proofs.Safety.Deciding
import WarehouseImport.Proofs.Safety.Destination
import WarehouseImport.Proofs.Safety.KeptOutcome
import WarehouseImport.Proofs.Safety.KeptTable
import WarehouseImport.Proofs.Safety.Phases
import WarehouseImport.Proofs.Safety.Transfer
import WarehouseImport.Proofs.Sql.Attempts
import WarehouseImport.Proofs.Sql.Building
import WarehouseImport.Proofs.Sql.Conditions
import WarehouseImport.Proofs.Sql.CreateTable
import WarehouseImport.Proofs.Sql.FieldTypes
import WarehouseImport.Proofs.Sql.Fields
import WarehouseImport.Proofs.Sql.Lexing
import WarehouseImport.Proofs.Sql.Numbers
import WarehouseImport.Proofs.Sql.References
import WarehouseImport.Proofs.Sql.Wording
import WarehouseImport.Proofs.Validation.Actions
import WarehouseImport.Proofs.Validation.Comparisons
import WarehouseImport.Proofs.Validation.Definitions
import WarehouseImport.Proofs.Validation.Failures
import WarehouseImport.Proofs.Validation.Manifests
import WarehouseImport.Proofs.Validation.Numbers
import WarehouseImport.Proofs.Validation.Parts
import WarehouseImport.Proofs.Validation.Printing
import WarehouseImport.Proofs.Validation.Reconciliation
import WarehouseImport.Proofs.Validation.Redescribed
import WarehouseImport.Proofs.Validation.Untouched
import WarehouseImport.Rehearsal.Import
import WarehouseImport.Rehearsal.Service
import WarehouseImport.Rehearsal.Session
import WarehouseImport.Rehearsal.Stage
import WarehouseImport.Rehearsal.Transfer
import WarehouseImport.Rehearsal.Warehouse
import WarehouseImport.Session.Action
import WarehouseImport.Session.Basic
import WarehouseImport.Session.LogFile
import WarehouseImport.Session.Messages
import WarehouseImport.Session.Progress
import WarehouseImport.Session.Terminal
import WarehouseImport.Sql.Binding
import WarehouseImport.Sql.Builder
import WarehouseImport.Sql.Document
import WarehouseImport.Sql.Filter
import WarehouseImport.Sql.MappedSelect
import WarehouseImport.Sql.Statement
import WarehouseImport.Sql.Text
import WarehouseImport.Table.Definition
import WarehouseImport.Table.Document
import WarehouseImport.Table.Name
import WarehouseImport.Text.Blank
import WarehouseImport.Text.Case
import WarehouseImport.Text.CaseTable
import WarehouseImport.Text.CodeRange
import WarehouseImport.Text.Digit
import WarehouseImport.Text.Padding
import WarehouseImport.Text.Printable
import WarehouseImport.Text.Quoted
import WarehouseImport.Text.Summary
import WarehouseImport.Text.Word
import WarehouseImport.Time.Calendar
import WarehouseImport.Time.Duration
import WarehouseImport.Time.Timer
import WarehouseImport.Warehouse.Basic
import WarehouseImport.Warehouse.Call
import WarehouseImport.Warehouse.Client
import WarehouseImport.Warehouse.Document
