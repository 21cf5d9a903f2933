import DataGrid.Store.Basic
import Mathlib.Data.List.Nodup

/-!
# What a store holds

A store is filled by putting entries into it, so that every key is in the partition it selects and
only there. The partitions of a collection together therefore hold each of its entries once
(`mem_content`, `nodup_content`).
-/

namespace DataGrid.Store

/-- Every key is where it belongs, and every value has the property `P`. -/
structure Filled (P : Value → Prop) (s : Store) : Prop where
  placed : ∀ (c : String) (p : Nat) (k : String) (v : Value),
    (s.shard c p)[k]? = some v → s.partitioning.partitionOf k = p
  values : ∀ (c : String) (p : Nat) (k : String) (v : Value), (s.shard c p)[k]? = some v → P v

variable {P : Value → Prop} {s : Store}

@[simp] theorem shard_empty (q : Partitioning) (c : String) (p : Nat) : (empty q).shard c p = ∅ := by
  simp [shard, empty, Std.TreeMap.getD_emptyc]

theorem shard_put (s : Store) (c k : String) (v : Value) (c' : String) (p : Nat) :
    (s.put c k v).2.shard c' p =
      if c = c' ∧ s.partitioning.partitionOf k = p then (s.shard c' p).insert k v
      else s.shard c' p := by
  simp only [put, shard, Std.TreeMap.getD_insert, Std.LawfulEqOrd.compare_eq_iff_eq]
  by_cases hc : c = c'
  · subst hc
    by_cases hp : s.partitioning.partitionOf k = p
    · subst hp
      simp
    · simp [hp, Std.TreeMap.getD_insert]
  · simp [hc]

theorem filled_empty (q : Partitioning) : (empty q).Filled P := by
  constructor <;> simp

theorem Filled.put (h : s.Filled P) (c k : String) {v : Value} (hv : P v) :
    (s.put c k v).2.Filled P := by
  have entry {c' : String} {p : Nat} {j : String} {w : Value}
      (found : ((s.put c k v).2.shard c' p)[j]? = some w) :
      s.partitioning.partitionOf k = p ∧ k = j ∧ v = w ∨ (s.shard c' p)[j]? = some w := by
    rw [shard_put] at found
    split at found
    · next here =>
      rw [Std.TreeMap.getElem?_insert] at found
      split at found
      · next same =>
        exact .inl ⟨here.2, Std.LawfulEqOrd.eq_of_compare same, Option.some.inj found⟩
      · exact .inr found
    · exact .inr found
  constructor
  · intro c' p j w found
    rcases entry found with ⟨here, rfl, -⟩ | old
    · exact here
    · exact h.placed c' p j w old
  · intro c' p j w found
    rcases entry found with ⟨-, -, rfl⟩ | old
    · exact hv
    · exact h.values c' p j w old

/-- The matching entries of a collection, partition by partition. -/
def content (s : Store) (c : String) (matching : Entry → Bool) : List Entry :=
  (List.range s.partitioning.count).flatMap fun p => (s.dump c p).filter matching

theorem mem_dump {c : String} {p : Nat} {e : Entry} :
    e ∈ s.dump c p ↔ (s.shard c p)[e.key]? = some e.value := by
  rw [← Std.TreeMap.mem_toList_iff_getElem?_eq_some, dump, List.mem_map]
  constructor
  · rintro ⟨⟨k, v⟩, h, rfl⟩
    exact h
  · intro h
    exact ⟨(e.key, e.value), h, rfl⟩

/-- The content consists of the entries that can be looked up. -/
theorem mem_content (h : s.Filled P) {c : String} {matching : Entry → Bool} {e : Entry} :
    e ∈ s.content c matching ↔ s.get? c e.key = some e.value ∧ matching e = true := by
  simp only [content, List.mem_flatMap, List.mem_range, List.mem_filter, mem_dump]
  constructor
  · rintro ⟨p, -, found, ok⟩
    refine ⟨?_, ok⟩
    rw [get?, h.placed c p e.key e.value found]
    exact found
  · rintro ⟨found, ok⟩
    exact ⟨s.partitioning.partitionOf e.key, s.partitioning.partitionOf_lt e.key, found, ok⟩

theorem Filled.value (h : s.Filled P) {c : String} {matching : Entry → Bool} {e : Entry}
    (he : e ∈ s.content c matching) : P e.value := by
  exact h.values c _ e.key e.value ((mem_content h).1 he).1

theorem nodup_dump (s : Store) (c : String) (p : Nat) : ((s.dump c p).map (·.key)).Nodup := by
  rw [dump, List.map_map, List.Nodup, List.pairwise_map]
  refine Std.TreeMap.distinct_keys_toList.imp fun {a b} ne same => ne ?_
  exact Std.LawfulEqOrd.compare_eq_iff_eq.2 same

/-- Different partitions have no key in common. -/
theorem nodup_keys (h : s.Filled P) (c : String) {ps : List Nat} (distinct : ps.Nodup) :
    ((ps.flatMap (s.dump c)).map (·.key)).Nodup := by
  rw [List.map_flatMap, List.nodup_flatMap]
  refine ⟨fun p _ => nodup_dump s c p, distinct.imp fun {p q} ne k hp hq => ne ?_⟩
  obtain ⟨e, he, rfl⟩ := List.mem_map.1 hp
  obtain ⟨e', he', same⟩ := List.mem_map.1 hq
  have placed := h.placed c p e.key e.value (mem_dump.1 he)
  have placed' := h.placed c q e'.key e'.value (mem_dump.1 he')
  rw [same, placed] at placed'
  exact placed'

/-- No key comes twice. -/
theorem nodup_content (h : s.Filled P) (c : String) (matching : Entry → Bool) :
    ((s.content c matching).map (·.key)).Nodup := by
  rw [content, ← List.filter_flatMap]
  exact (nodup_keys h c List.nodup_range).sublist (List.filter_sublist.map _)

end DataGrid.Store
