import DataGrid.Store.KeyHash

/-!
# Partitions of the key space

A partitioning has at least one partition, and the hash of a key selects the one it lives in.
-/

namespace DataGrid

structure Partitioning where
  count : Nat
  count_pos : 0 < count := by decide

namespace Partitioning

/-- The partitioning with `n` partitions; none counts as one. -/
def ofCount (n : Nat) : Partitioning := ⟨max n 1, by omega⟩

/-- The partition a key lives in: the low 32 bits of its hash modulo the count. -/
def partitionOf (p : Partitioning) (key : String) : Nat :=
  (KeyHash.ofText key).toUInt32.toNat % p.count

def ids (p : Partitioning) : List Nat := List.range p.count

def contains (p : Partitioning) (id : Nat) : Bool := id < p.count

theorem partitionOf_lt (p : Partitioning) (key : String) : p.partitionOf key < p.count :=
  Nat.mod_lt _ p.count_pos

@[simp] theorem mem_ids {p : Partitioning} {id : Nat} : id ∈ p.ids ↔ id < p.count := by
  simp [ids]

end Partitioning

end DataGrid
