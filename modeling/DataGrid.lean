import DataGrid.Main
import DataGrid.Paging.Diagnostic
import DataGrid.Proofs.Paging.Tour
import DataGrid.Proofs.Query.Aggregation
import DataGrid.Proofs.Query.EntryOrder
import DataGrid.Proofs.Schedule.Interleaving
import DataGrid.Proofs.Paging.Walk
import DataGrid.Proofs.Query.Progress
import DataGrid.Proofs.Query.Merge
import DataGrid.Proofs.Aggregate.Grouping
import DataGrid.Proofs.Paging.Client
import DataGrid.Proofs.Store.PlainMap
import DataGrid.Proofs.Task.Tombstone
import DataGrid.Proofs.Task.Agreement
import DataGrid.Proofs.Node.Browse
import DataGrid.Proofs.Task.History
import DataGrid.Proofs.Schedule.Slots
import DataGrid.Proofs.Node.Storing
import DataGrid.Proofs.Filter.Meaning
import DataGrid.Proofs.Aggregate.Failures
import DataGrid.Proofs.Aggregate.DecimalSum
import DataGrid.Proofs.Aggregate.FirstExtremum
import DataGrid.Proofs.Aggregate.FixedPoint
import DataGrid.Proofs.Aggregate.InPlace
import DataGrid.Proofs.Number.ShortDouble
import DataGrid.Proofs.Value.NumericOrder
import DataGrid.Proofs.Query.Abandoned
import DataGrid.Proofs.Filter.Like
import DataGrid.Proofs.Aggregate.Partials
import DataGrid.Proofs.Filter.Comparisons
import DataGrid.Proofs.Query.Path
import DataGrid.Proofs.Value.Tagged
import DataGrid.Proofs.Query.Refusal
import DataGrid.Proofs.Task.Answer
import DataGrid.Proofs.Config.CommandLine
import DataGrid.Proofs.Filter.Leaves
import DataGrid.Proofs.Paging.Anchors
import DataGrid.Proofs.Paging.Bounds
