import DataGrid.Query.Entry
import DataGrid.Store.Partitioning
import Std.Data.TreeMap

/-!
# The partitioned store

Named collections, each a map from partition to the entries that live there, in key order.
A collection and a partition come into being with the first entry put into them, and an
entry only ever lives in the partition its key selects.
-/

namespace DataGrid

/-- The entries of one partition. -/
abbrev Shard := Std.TreeMap String Value

/-- The shards of one collection. -/
abbrev Shards := Std.TreeMap Nat Shard

structure Store where
  partitioning : Partitioning
  collections : Std.TreeMap String Shards

namespace Store

def empty (p : Partitioning) : Store := ⟨p, ∅⟩

/-- The entries of a collection in one partition. -/
def shard (s : Store) (c : String) (p : Nat) : Shard := (s.collections.getD c ∅).getD p ∅

def get? (s : Store) (c k : String) : Option Value :=
  (s.shard c (s.partitioning.partitionOf k))[k]?

/-- Stores a value; the answer is the one it replaces. -/
def put (s : Store) (c k : String) (v : Value) : Option Value × Store :=
  let p := s.partitioning.partitionOf k
  let shard := (s.shard c p).insert k v
  let shards := (s.collections.getD c ∅).insert p shard
  (s.get? c k, { s with collections := s.collections.insert c shards })

/-- Removes an entry; the answer is its value. -/
def remove (s : Store) (c k : String) : Option Value × Store :=
  let p := s.partitioning.partitionOf k
  match s.get? c k with
  | none => (none, s)
  | some v =>
    let shards := (s.collections.getD c ∅).insert p ((s.shard c p).erase k)
    (some v, { s with collections := s.collections.insert c shards })

/-- The entries of a collection in one partition, in key order. -/
def dump (s : Store) (c : String) (p : Nat) : List Entry :=
  (s.shard c p).toList.map fun e => ⟨e.1, e.2⟩

def entryCount (s : Store) (c : String) : Nat :=
  (s.collections.getD c ∅).toList.foldl (fun n e => n + e.2.size) 0

def collectionNames (s : Store) : List String := s.collections.keys

/-- The entries of one partition that satisfy a predicate. -/
def scan (s : Store) (c : String) (matching : Entry → Bool) (p : Nat) :
    Except GridError (List Entry) :=
  if s.partitioning.contains p then return (s.dump c p).filter matching
  else throw (.unknownPartition p)

end Store

end DataGrid
