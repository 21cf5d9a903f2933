import DataGrid.Text.Duration

/-!
# Engine settings

The knobs of a node: how many partitions there are, how many tasks run at once, how long a
query may take, and how many finished tasks are remembered. None of the counts may be zero.
-/

namespace DataGrid

structure EngineConfig where
  partitionCount : Nat
  poolCapacity : Nat
  queryTimeout : Duration
  finishedTaskLimit : Nat
deriving DecidableEq

/-- Why settings are refused. -/
inductive EngineFault where
  | noPartitions
  | noCapacity
  | noFinishedTasks
deriving DecidableEq

namespace EngineConfig

/-- The settings of a node with this many processors that chooses nothing itself. -/
def standard (processors : Nat) : EngineConfig where
  partitionCount := 271
  poolCapacity := processors
  queryTimeout := .ofSeconds 300
  finishedTaskLimit := 10000

/-- Refuses a count of zero, the first of them if there are several. -/
def validate (c : EngineConfig) : Except EngineFault Unit :=
  if c.partitionCount = 0 then throw .noPartitions
  else if c.poolCapacity = 0 then throw .noCapacity
  else if c.finishedTaskLimit = 0 then throw .noFinishedTasks
  else return ()

end EngineConfig

def EngineFault.message : EngineFault → String
  | .noPartitions => "partition count must be at least 1"
  | .noCapacity => "pool capacity must be at least 1"
  | .noFinishedTasks => "finished task limit must be at least 1"

end DataGrid
