import RanSlicing.Adjustment
import RanSlicing.Agent
import RanSlicing.Allocation.Equal
import RanSlicing.Allocation.Overlap
import RanSlicing.Allocation.Ranges
import RanSlicing.Allocation.Relative
import RanSlicing.Allocation.Request
import RanSlicing.Console.Assignment
import RanSlicing.Console.Daemon
import RanSlicing.Console.Help
import RanSlicing.Console.Operator
import RanSlicing.Console.Options
import RanSlicing.Console.Output
import RanSlicing.Console.Result
import RanSlicing.Console.Runs
import RanSlicing.Console.Table
import RanSlicing.Console.View
import RanSlicing.Control.Heuristic
import RanSlicing.Control.Report
import RanSlicing.Control.Rotation
import RanSlicing.Control.Threshold
import RanSlicing.Document.Basic
import RanSlicing.Document.Decode
import RanSlicing.Document.Json
import RanSlicing.Document.Requests
import RanSlicing.Document.Yaml.Reader
import RanSlicing.Document.Yaml.Scalar
import RanSlicing.Document.Yaml.Writer
import RanSlicing.Fault
import RanSlicing.FileTree.Basic
import RanSlicing.FileTree.Path
import RanSlicing.Main
import RanSlicing.Mask
import RanSlicing.Number.Decimal
import RanSlicing.Number.Integer
import RanSlicing.Number.Shortest
import RanSlicing.Policy
import RanSlicing.Pool
import RanSlicing.Range
import RanSlicing.Settings.Agent
import RanSlicing.Settings.Control
import RanSlicing.Settings.Layers
import RanSlicing.Settings.Slicing
import RanSlicing.Settings.Sources
import RanSlicing.SortedMap
import RanSlicing.Store.Backend
import RanSlicing.Store.Basic
import RanSlicing.Store.Files
import RanSlicing.Store.Memory
import RanSlicing.Store.PolicyRecord
import RanSlicing.Telemetry.Settings
import RanSlicing.Telemetry.Source
import RanSlicing.Telemetry.Table
import RanSlicing.Telemetry.Window
import RanSlicing.Text.Blank
import RanSlicing.Text.CaseTable
import RanSlicing.Text.Lowercase
import RanSlicing.Text.PrintTable
import RanSlicing.Text.Property
import RanSlicing.Text.Quoted
import RanSlicing.Text.Split
import RanSlicing.Text.Utf8
import RanSlicing.Proofs.Except
import RanSlicing.Proofs.Mask
import RanSlicing.Proofs.Mask.Units
import RanSlicing.Proofs.Text.Blank
import RanSlicing.Proofs.Mask.Text
import RanSlicing.Proofs.Mask.UnitSet
import RanSlicing.Proofs.SortedMap
import RanSlicing.Proofs.Store.Laws
import RanSlicing.Proofs.Allocation.Equal
import RanSlicing.Proofs.Allocation.Relative
import RanSlicing.Proofs.Allocation.EvenSplit
import RanSlicing.Proofs.Adjustment
import RanSlicing.Proofs.Adjustment.Walk
import RanSlicing.Proofs.Adjustment.Exact
import RanSlicing.Proofs.Adjustment.Stepwise
import RanSlicing.Proofs.Control.Heuristic
import RanSlicing.Proofs.Control.Operation
import RanSlicing.Proofs.FileTree.Basic
import RanSlicing.Proofs.Number.Integer
import RanSlicing.Proofs.Store.PolicyRecord
import RanSlicing.Proofs.Store.Files
import RanSlicing.Proofs.Allocation.Ranges
import RanSlicing.Proofs.Control.Rotation
import RanSlicing.Proofs.FileTree.Seat
import RanSlicing.Proofs.Lockstep
import RanSlicing.Proofs.Control.Lockstep
import RanSlicing.Proofs.Settings
import RanSlicing.Proofs.DryRun
import RanSlicing.Proofs.Store.Journal
import RanSlicing.Proofs.Allocation.Refusal
import RanSlicing.Proofs.Console.FailedCommand
import RanSlicing.Proofs.Control.RotationReport
import RanSlicing.Proofs.Control.HeuristicJournal
import RanSlicing.Proofs.Control.Told
import RanSlicing.Proofs.Control.HeuristicReport
import RanSlicing.Proofs.Store.WriteStats
import RanSlicing.Proofs.Store.Fickle
import RanSlicing.Proofs.Control.Rule
import RanSlicing.Proofs.Control.Rounds
import RanSlicing.Proofs.Control.Hysteresis
import RanSlicing.Proofs.Control.Settling
import RanSlicing.Proofs.Control.Isolation
import RanSlicing.Proofs.Range
import RanSlicing.Proofs.Allocation.Overlap
import RanSlicing.Proofs.Allocation.ExactRanges
import RanSlicing.Proofs.Store.Steady
import RanSlicing.Proofs.Allocation.Repeat
import RanSlicing.Proofs.Allocation.Admissible
import RanSlicing.Proofs.Control.Start
import RanSlicing.Proofs.Console.SetPolicies
import RanSlicing.Proofs.Store.PolicyGrammar
import RanSlicing.Proofs.Store.PolicyUpkeep
import RanSlicing.Proofs.Store.MaskHistory
import RanSlicing.Proofs.Store.Separation
import RanSlicing.Proofs.FileTree.Listing
import RanSlicing.Proofs.Telemetry.Window
import RanSlicing.Proofs.Telemetry.Table
import RanSlicing.Proofs.Telemetry.Source
import RanSlicing.Proofs.Telemetry.StructuralColumns
import RanSlicing.Proofs.Telemetry.Grouping
import RanSlicing.Proofs.Store.KeptMasks
import RanSlicing.Proofs.Control.Turns
import RanSlicing.Proofs.Mask.Union
import RanSlicing.Proofs.Range.Text
import RanSlicing.Proofs.Console.Runs
