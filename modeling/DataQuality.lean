import DataQuality.Report.Console
import DataQuality.Report.Document
import DataQuality.Report.Rows
import DataQuality.Row.Signature
import DataQuality.Rule.Offer
import DataQuality.Rule.Table
import DataQuality.Dataset.Headers
import DataQuality.Source.Batch
import DataQuality.Source.Load
import DataQuality.Proofs.Engine.Footprint
import DataQuality.Proofs.Engine.UnknownOperators
import DataQuality.Proofs.Rule.Literals
import DataQuality.Proofs.Row.Duplicates
import DataQuality.Proofs.Rule.Table
import DataQuality.Proofs.Engine.Settings
import DataQuality.Proofs.Engine.StoredNumbers
import DataQuality.Proofs.Rule.Changes
import DataQuality.Proofs.Rule.Import
import DataQuality.Proofs.Engine.BuiltInRules
import DataQuality.Proofs.Rule.Coherence
import DataQuality.Proofs.Row.Repetitions
import DataQuality.Proofs.Rule.Aggregation
import DataQuality.Proofs.Number.Display
import DataQuality.Proofs.Dataset.Scan
import DataQuality.Proofs.Dataset.Profile
import DataQuality.Proofs.Dataset.Columns
import DataQuality.Proofs.Report.Rows
import DataQuality.Proofs.Number.Grammar
import DataQuality.Proofs.Source.Batch
import DataQuality.Proofs.Dataset.Headers
import DataQuality.Proofs.Report.Console
import DataQuality.Proofs.Engine.Events
import DataQuality.Proofs.Engine.Warnings
import DataQuality.Proofs.Engine.RowEvents
import DataQuality.Proofs.Engine.LogSwitches
import DataQuality.Proofs.Engine.Representatives
import DataQuality.Proofs.Engine.ShownCells
