import DataGrid.Proofs.Aggregate.Result
import DataGrid.Proofs.Query.FanOut
import DataGrid.Query.Executor

/-!
# Aggregating by partitions

An aggregate over partitions is computed in parts, one for each partition. Main statement: it is
the aggregate of the entries that the query without paging returns, taken one by one in that
order, for every aggregator of the catalog whose sums do not round
(`aggregate_eq_single_pass`). Of what it leaves open there is a case
(`aggregate_distinct_gives_up`).
-/

namespace DataGrid.Executor

open FanOut Aggregator

theorem checkPartitions_eq_ok {count : Nat} {seen ps : List Nat} (distinct : ps.Nodup)
    (valid : ∀ p ∈ ps, p < count) (new : ∀ p ∈ ps, p ∉ seen) :
    checkPartitions count seen ps = .ok () := by
  induction ps generalizing seen with
  | nil => rfl
  | cons p ps ih =>
    obtain ⟨other, distinct⟩ := List.nodup_cons.1 distinct
    have known : ¬ count ≤ p := Nat.not_le.2 (valid p (by simp))
    rw [checkPartitions, if_neg known, if_neg (new p (by simp))]
    refine ih distinct (fun q hq => valid q (by simp [hq])) fun q hq => ?_
    rw [List.mem_cons, not_or]
    exact ⟨fun e => other (e ▸ hq), new q (by simp [hq])⟩

/-- What a query makes of the entries of its partitions. -/
def merge? (paging : Option Paging) (parts : List (List Entry)) : Option (List Entry) :=
  match paging with
  | some p => p.pageOf? parts.flatten
  | none => some parts.flatten

variable {α : Type} {x : Executor} {c : String} {matching : Entry → Bool} {ps : List Nat}

theorem execute_eq_merge? {paging : Option Paging} (distinct : ps.Nodup)
    (valid : ∀ p ∈ ps, p < x.scanner.partitionCount) :
    x.execute c matching paging ps =
      (x.fanOut (x.scanTask c matching) ps).map (merge? paging) := by
  rw [execute, checkPartitions_eq_ok distinct valid (by simp)]
  cases x.fanOut (x.scanTask c matching) ps <;> cases paging <;> rfl

theorem execute_eq (distinct : ps.Nodup) (valid : ∀ p ∈ ps, p < x.scanner.partitionCount) :
    x.execute c matching none ps =
      (x.fanOut (x.scanTask c matching) ps).map fun parts => some parts.flatten :=
  execute_eq_merge? distinct valid

theorem aggregate_eq (distinct : ps.Nodup) (valid : ∀ p ∈ ps, p < x.scanner.partitionCount)
    (a : Aggregator) :
    x.aggregate c matching a ps =
      (x.fanOut (x.foldTask c matching a) ps >>= combineAll a).map result? := by
  rw [aggregate, checkPartitions_eq_ok distinct valid (by simp)]
  cases x.fanOut (x.foldTask c matching a) ps with
  | error e => rfl
  | ok parts =>
    change (combineAll a parts >>= fun b => pure b.result?) = (combineAll a parts).map result?
    cases combineAll a parts <;> rfl

theorem toOption_fanOut (task : Nat → PartitionTask α)
    (time : ps = [] ∨ (ps.map x.scanner.delay).sum < x.timeout.nanoseconds) :
    (x.fanOut task ps).toOption = results? (ps.map task) := by
  rw [fanOut, toOption_outcome (by simpa [Function.comp_def] using time), List.map_map]
  rfl

/-! ## Scans that succeed -/

/-- The entries that a scan finds in a partition. -/
def scanned (x : Executor) (c : String) (matching : Entry → Bool) (p : Nat) : List Entry :=
  (x.scanner.scan c matching p).toOption.getD []

theorem scan_eq_scanned {p : Nat} (h : ∃ es, x.scanner.scan c matching p = .ok es) :
    x.scanner.scan c matching p = .ok (x.scanned c matching p) := by
  obtain ⟨es, h⟩ := h
  simp [scanned, h, Except.toOption]

theorem mapM_congr {f g : Nat → Option α} (h : ∀ p ∈ ps, f p = g p) : ps.mapM f = ps.mapM g := by
  induction ps with
  | nil => rfl
  | cons p ps ih =>
    rw [List.mapM_cons, List.mapM_cons, h p (by simp), ih fun q hq => h q (by simp [hq])]

section Scans

variable (scans : ∀ p ∈ ps, ∃ es, x.scanner.scan c matching p = .ok es)

include scans

theorem results?_scanTask :
    results? (ps.map (x.scanTask c matching)) = some (ps.map (x.scanned c matching)) := by
  rw [results?, List.mapM_map]
  refine (mapM_congr fun p hp => ?_).trans List.mapM_pure
  change (x.scanner.scan c matching p).toOption = _
  rw [scan_eq_scanned (scans p hp)]
  rfl

theorem results?_foldTask (a : Aggregator) :
    results? (ps.map (x.foldTask c matching a)) =
      (ps.map (x.scanned c matching)).mapM fun es => (a.accumulateAll es).toOption := by
  rw [results?, List.mapM_map, List.mapM_map]
  refine mapM_congr fun p hp => ?_
  change (x.foldTask c matching a p).result.toOption = _
  rw [foldTask, scan_eq_scanned (scans p hp)]
  rfl

/-- What is returned when the scans have been waited for. -/
theorem flatten_eq_ok {r : Except GridError (List (List Entry))}
    (h : r.toOption = results? (ps.map (x.scanTask c matching))) :
    r.map List.flatten = .ok (ps.map (x.scanned c matching)).flatten := by
  rw [results?_scanTask scans] at h
  cases r with
  | error e => cases h
  | ok rs =>
    cases h
    rfl

/-- What the partial aggregates are combined to when they have been waited for. -/
theorem combineAll_eq_ok {name : String} {f : AggregateFunction} {path : Option AttributePath}
    (exact : f.isExact = true) {r : Except GridError (List Aggregator)}
    (h : r.toOption = results? (ps.map (x.foldTask c matching (Catalog.fresh name f path))))
    (b : Aggregator) :
    r >>= combineAll (Catalog.fresh name f path) = .ok b ↔
      accumulateAll (Catalog.fresh name f path) (ps.map (x.scanned c matching)).flatten = .ok b := by
  have same : (r >>= combineAll (Catalog.fresh name f path)).toOption =
      (accumulateAll (Catalog.fresh name f path)
        (ps.map (x.scanned c matching)).flatten).toOption := by
    rw [toOption_bind, h, results?_foldTask scans]
    exact combineAll_accumulateAll exact (fits_start exact) (ps.map (x.scanned c matching))
  rw [← toOption_eq_some, same, toOption_eq_some]

variable (distinct : ps.Nodup) (valid : ∀ p ∈ ps, p < x.scanner.partitionCount)
  (time : ps = [] ∨ (ps.map x.scanner.delay).sum < x.timeout.nanoseconds)

include distinct valid time

theorem execute_eq_ok :
    x.execute c matching none ps = .ok (some (ps.map (x.scanned c matching)).flatten) := by
  have merged := flatten_eq_ok scans (toOption_fanOut _ time)
  rw [execute_eq distinct valid]
  cases parts : x.fanOut (x.scanTask c matching) ps with
  | error e => simp [parts, Except.map] at merged
  | ok rs =>
    rw [parts] at merged
    exact congrArg (Except.map some) merged

theorem aggregate_eq_ok {name : String} {f : AggregateFunction} {path : Option AttributePath}
    (exact : f.isExact = true) (o : Option Value) :
    x.aggregate c matching (Catalog.fresh name f path) ps = .ok o ↔
      ∃ b, accumulateAll (Catalog.fresh name f path) (ps.map (x.scanned c matching)).flatten =
        .ok b ∧ b.result? = o := by
  have combined (b : Aggregator) :
      x.fanOut (x.foldTask c matching (Catalog.fresh name f path)) ps >>=
        combineAll (Catalog.fresh name f path) = .ok b ↔ _ :=
    combineAll_eq_ok scans exact (toOption_fanOut _ time) b
  rw [aggregate_eq distinct valid, map_eq_ok]
  simp only [combined]

end Scans

/-! ## Results -/

/-- Results are the same down to their representation; lists of distinct values hold the same
values, perhaps in another order. -/
def SameStored (f : AggregateFunction) (v w : Value) : Prop :=
  match f with
  | .distinct => ∃ vs ws, v = .list vs ∧ w = .list ws ∧ vs.Perm ws
  | _ => v = w

theorem sameStored_of_gives {name : String} {f : AggregateFunction} {path : Option AttributePath}
    {s : AggregateState} (fits : s.Fits f) {v w : Value}
    (hv : (reached name f path s).Gives (some v)) (hw : (reached name f path s).Gives (some w)) :
    SameStored f v w := by
  cases f with
  | distinct =>
    match s, fits with
    | .distinct us, _ =>
      obtain ⟨vs, rfl, left⟩ := hv.perm rfl
      obtain ⟨ws, rfl, right⟩ := hw.perm rfl
      exact ⟨vs, ws, rfl, rfl, left.trans right.symm⟩
  | _ => exact hv.unique hw fits nofun

/-- For an aggregator whose sums do not round, the aggregate over partitions is that of the
entries the query returns, taken one by one; it fails just when that fails. So it is if there is
time for one scan after the other, and in whatever order the tasks of the two queries run if they
end before the deadline. Only distinct values may come to nothing then, if they are tangled. -/
theorem aggregate_eq_single_pass {name : String} {f : AggregateFunction} {attr : Option String}
    {a : Aggregator} (known : Catalog.function? name = some f) (exact : f.isExact = true)
    (fresh : Catalog.aggregator name attr = .ok a) (distinct : ps.Nodup)
    (valid : ∀ p ∈ ps, p < x.scanner.partitionCount)
    (scans : ∀ p ∈ ps, ∃ es, x.scanner.scan c matching p = .ok es) :
    ∃ es,
      (ps = [] ∨ (ps.map x.scanner.delay).sum < x.timeout.nanoseconds →
        x.execute c matching none ps = .ok (some es) ∧
          ∀ o, x.aggregate c matching a ps = .ok o ↔
            ∃ b, a.accumulateAll es = .ok b ∧ b.result? = o) ∧
      (∀ r, Settles x.capacity x.timeout (ps.map (x.scanTask c matching)) r →
        r.map List.flatten = .ok es) ∧
      (∀ r, Settles x.capacity x.timeout (ps.map (x.foldTask c matching a)) r →
        ∀ b, r >>= combineAll a = .ok b ↔ a.accumulateAll es = .ok b) ∧
      ∀ b, a.accumulateAll es = .ok b →
        (∀ v w, b.Gives (some v) → b.Gives (some w) → SameStored f v w) ∧
        (b.Gives none → f = .distinct ∧ b.Tangled) := by
  obtain ⟨path, rfl⟩ := Catalog.exists_eq_fresh known fresh
  refine ⟨(ps.map (x.scanned c matching)).flatten, fun time =>
      ⟨execute_eq_ok scans distinct valid time, aggregate_eq_ok scans distinct valid time exact⟩,
    fun r settled => flatten_eq_ok scans settled.toOption,
    fun r settled => combineAll_eq_ok scans exact settled.toOption, fun b single => ⟨?_, ?_⟩⟩
  · obtain ⟨s, rfl, fits⟩ := exists_of_accumulateAll (fits_start exact) single
    intro v w
    exact sameStored_of_gives fits
  · obtain ⟨s, rfl, fits⟩ := exists_of_accumulateAll (fits_start exact) single
    intro none
    exact ⟨none.tangled.eq_distinct fits, none.tangled⟩

example : (Catalog.functions.filter (·.2.isExact)).map (·.1) =
    ["count", "distinct", "big_integer_avg", "integer_avg", "long_avg", "big_decimal_max",
      "big_integer_max", "double_max", "integer_max", "long_max", "comparable_max",
      "big_decimal_min", "big_integer_min", "double_min", "integer_min", "long_min",
      "comparable_min", "big_integer_sum", "integer_sum", "long_sum", "fixed_point_sum"] := rfl

/-- Two partitions in reverse order, of which each takes a third of the time there is. -/
theorem aggregate_eq_single_pass_reversed :
    let x : Executor := ⟨⟨2, fun _ matching p =>
      .ok ([⟨"a", .long 1⟩, ⟨"b", .long (.ofNat p)⟩].filter matching), fun _ => 1⟩, 2, ⟨3⟩⟩
    let a := Catalog.fresh "long_sum" (.sum .long) none
    x.aggregate "c" (fun _ => true) a [1, 0] = .ok (some (.long 3)) ∧
      ∃ r b, Settles x.capacity x.timeout ([1, 0].map (x.foldTask "c" (fun _ => true) a)) r ∧
        r >>= combineAll a = .ok b ∧ ∀ v, b.Gives (some v) → v = .long 3 := by
  intro x a
  have known : Catalog.function? "long_sum" = some (.sum .long) := rfl
  have fresh : Catalog.aggregator "long_sum" none = .ok a := rfl
  have scans : ∀ p ∈ [1, 0], ∃ es, x.scanner.scan "c" (fun _ => true) p = .ok es :=
    fun p _ => ⟨_, rfl⟩
  obtain ⟨es, inOrder, scanned, folded, results⟩ := aggregate_eq_single_pass known rfl fresh
    (by decide) (by decide) scans
  obtain ⟨entries, same⟩ := inOrder (.inr (by decide))
  have single : ∃ b, a.accumulateAll es = .ok b ∧ b.result? = some (.long 3) := by
    have returned := execute_eq_ok scans (by decide) (by decide) (.inr (by decide))
    obtain rfl := Option.some.inj (Except.ok.inj (entries.symm.trans returned))
    exact ⟨_, rfl, rfl⟩
  have all : ∃ rs, results? ([1, 0].map (x.foldTask "c" (fun _ => true) a)) = some rs := by
    rw [results?_foldTask scans]
    exact ⟨_, rfl⟩
  obtain ⟨rs, all⟩ := all
  have settled := settles_of_results? all x.capacity x.timeout
  refine ⟨(same _).2 single, ?_⟩
  obtain ⟨b, passed, result⟩ := single
  refine ⟨_, b, settled, (folded _ settled b).2 passed, fun v given => ?_⟩
  exact (results b passed).1 v _ given (result ▸ b.gives_result?)

/-- A partition with numbers on both sides of 2^96: the single pass takes them all, and the sort of
the values it has seen gives up. -/
theorem aggregate_distinct_gives_up :
    let es := (List.range 21).map fun i =>
      (⟨"k", .bigInteger (2 ^ 96 - 20 + (8 * i % 21 : Nat))⟩ : Entry)
    let x : Executor := ⟨⟨1, fun _ matching _ => .ok (es.filter matching), fun _ => 0⟩, 1, ⟨1⟩⟩
    let a := Catalog.fresh "distinct" .distinct none
    x.execute "c" (fun _ => true) none [0] = .ok (some es) ∧
      (∃ b, a.accumulateAll es = .ok b) ∧
      x.aggregate "c" (fun _ => true) a [0] = .ok none := by
  intro es x a
  have scans : ∀ p ∈ [0], ∃ es, x.scanner.scan "c" (fun _ => true) p = .ok es :=
    fun p _ => ⟨_, rfl⟩
  have scanned : ([0].map (x.scanned "c" fun _ => true)).flatten = es := by
    change es.filter (fun _ => true) ++ [] = es
    simp
  have time : ([0].map x.scanner.delay).sum < x.timeout.nanoseconds := by decide
  have failed : Value.sort? ((es.map a.valueOf).foldl insertDistinct []) = none := by
    decide +kernel
  have passed := accumulateAll_distinct (a := a) rfl es
  refine ⟨?_, ⟨_, passed⟩, ?_⟩
  · rw [execute_eq_ok scans (by decide) (by decide) (.inr time), scanned]
  · have single : x.aggregate "c" (fun _ => true) a [0] = .ok none ↔ _ :=
      aggregate_eq_ok scans (by decide) (by decide) (.inr time) rfl none
    rw [scanned] at single
    refine single.2 ⟨_, passed, ?_⟩
    rw [result?_distinct rfl, failed]
    rfl

end DataGrid.Executor
