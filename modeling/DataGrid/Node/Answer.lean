import DataGrid.Paging.Request
import DataGrid.Task.Cell

/-!
# Answers of a node

What a node answers to a request, and the JSON that says so.
-/

namespace DataGrid

structure PutAnswer where
  partition : Nat
  replaced : Bool

structure GetAnswer where
  key : String
  value : Option Value

structure ScanAnswer where
  entries : List Entry
  /-- Asks for the following page. -/
  nextAnchor : Option AnchorRequest

structure AggregateAnswer where
  aggregator : String
  value : Value

structure SubmitAnswer where
  id : String
  state : TaskState

structure CancelAnswer where
  id : String
  /-- Whether this request cancelled the task. -/
  cancelled : Bool
  state : TaskState

namespace PutAnswer

def toJson (a : PutAnswer) : Json :=
  .object [("partition", .int a.partition), ("replaced", .bool a.replaced)]

end PutAnswer

namespace GetAnswer

def toJson (a : GetAnswer) : Json :=
  .object [("key", .text a.key), ("value", (a.value.map Value.toJson).getD .null)]

end GetAnswer

namespace ScanAnswer

def entryJson (e : Entry) : Json := .object [("key", .text e.key), ("value", e.value.toJson)]

def toJson (a : ScanAnswer) : Json :=
  .object [("entries", .array (a.entries.map entryJson)),
    ("next_anchor", (a.nextAnchor.map AnchorRequest.toJson).getD .null)]

end ScanAnswer

namespace AggregateAnswer

def toJson (a : AggregateAnswer) : Json :=
  .object [("aggregator", .text a.aggregator), ("value", a.value.toJson)]

end AggregateAnswer

namespace SubmitAnswer

def toJson (a : SubmitAnswer) : Json :=
  .object [("state", .text a.state.name), ("task_id", .text a.id)]

end SubmitAnswer

namespace CancelAnswer

def toJson (a : CancelAnswer) : Json :=
  .object [("cancelled", .bool a.cancelled), ("state", .text a.state.name), ("task_id", .text a.id)]

end CancelAnswer

/-- What a node tells about a task; its result or error is there once it has ended. -/
def TaskCell.toJson (c : TaskCell) : Json :=
  let outcome := match c.outcome? with
    | some (.ok v) => [("result", v)]
    | some (.error e) => [("error", .text e.message)]
    | none => []
  .object (outcome ++ [("state", .text c.state.name), ("task_id", .text c.id)])

end DataGrid
