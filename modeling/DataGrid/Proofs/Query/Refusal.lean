import DataGrid.Proofs.Query.Abandoned
import DataGrid.Proofs.Query.Aggregation
import Mathlib.Data.List.Induction

/-!
# Refused lists of partitions

A query looks through its list of partitions before it does anything else. The list passes if all of
its ids are those of partitions and no two are the same. If it does not, the first bad id decides
the error, whatever comes after it, and the query is over before it has a task: nothing is
submitted, scanned or folded for it, then or later. Main statement: `bad_list_starts_nothing`.
-/

namespace DataGrid

namespace Executor

variable {count p : Nat} {seen ps good rest : List Nat} {e : GridError}

/-! ## The first bad id -/

/-- All ids are those of partitions, and no two are the same. -/
structure Valid (count : Nat) (ps : List Nat) : Prop where
  known : ∀ p ∈ ps, p < count
  distinct : ps.Nodup

/-- The error of the first position with an id of no partition, or with one that stands at an
earlier position too. -/
inductive FirstFault (count : Nat) (ps : List Nat) : GridError → Prop
  | unknown {i p : Nat} (before : Valid count (ps.take i)) (here : ps[i]? = some p)
      (beyond : count ≤ p) : FirstFault count ps (.unknownPartition p)
  | repeated {i p : Nat} (before : Valid count (ps.take i)) (here : ps[i]? = some p)
      (again : p ∈ ps.take i) : FirstFault count ps (.invalidRequest (.repeatedPartition p))

theorem valid_append_singleton :
    Valid count (good ++ [p]) ↔ Valid count good ∧ p < count ∧ p ∉ good := by
  constructor
  · rintro ⟨known, distinct⟩
    obtain ⟨distinct, -, apart⟩ := List.nodup_append.1 distinct
    rw [List.forall_mem_append, List.forall_mem_singleton] at known
    exact ⟨⟨known.1, distinct⟩, known.2, fun mem => apart p mem p (by simp) rfl⟩
  · rintro ⟨⟨known, distinct⟩, below, new⟩
    refine ⟨?_, ?_⟩
    · rw [List.forall_mem_append, List.forall_mem_singleton]
      exact ⟨known, below⟩
    · rw [List.nodup_append_comm, List.singleton_append, List.nodup_cons]
      exact ⟨new, distinct⟩

/-- What comes after the first bad id does not count. -/
theorem FirstFault.append (fault : FirstFault count ps e) (rest : List Nat) :
    FirstFault count (ps ++ rest) e := by
  have further {i p : Nat} (here : ps[i]? = some p) :
      (ps ++ rest).take i = ps.take i ∧ (ps ++ rest)[i]? = some p := by
    obtain ⟨lt, -⟩ := List.getElem?_eq_some_iff.1 here
    exact ⟨List.take_append_of_le_length (Nat.le_of_lt lt),
      by rw [List.getElem?_append_left lt, here]⟩
  cases fault with
  | unknown before here beyond =>
    obtain ⟨same, here'⟩ := further here
    exact .unknown (same ▸ before) here' beyond
  | repeated before here again =>
    obtain ⟨same, here'⟩ := further here
    exact .repeated (same ▸ before) here' (same ▸ again)

theorem valid_or_firstFault (count : Nat) (ps : List Nat) :
    Valid count ps ∨ ∃ e, FirstFault count ps e := by
  induction ps using List.reverseRecOn with
  | nil => exact .inl ⟨by simp, .nil⟩
  | append_singleton ps p ih =>
    rcases ih with before | ⟨e, fault⟩
    · have taken : (ps ++ [p]).take ps.length = ps := List.take_left
      have here : (ps ++ [p])[ps.length]? = some p := List.getElem?_concat_length
      rw [valid_append_singleton]
      by_cases beyond : count ≤ p
      · exact .inr ⟨_, .unknown (taken.symm ▸ before) here beyond⟩
      by_cases again : p ∈ ps
      · exact .inr ⟨_, .repeated (taken.symm ▸ before) here (taken.symm ▸ again)⟩
      · exact .inl ⟨before, Nat.lt_of_not_le beyond, again⟩
    · exact .inr ⟨e, fault.append [p]⟩

/-! ## The check -/

/-- Good ids are only noted. -/
theorem checkPartitions_append (valid : Valid count good) (new : ∀ p ∈ good, p ∉ seen)
    (rest : List Nat) :
    checkPartitions count seen (good ++ rest) =
      checkPartitions count (good.reverse ++ seen) rest := by
  obtain ⟨known, distinct⟩ := valid
  induction good generalizing seen with
  | nil => rfl
  | cons p good ih =>
    rw [List.forall_mem_cons] at known new
    obtain ⟨other, distinct⟩ := List.nodup_cons.1 distinct
    have later : ∀ q ∈ good, q ∉ p :: seen := fun q hq => by
      rw [List.mem_cons, not_or]
      exact ⟨fun same => other (same ▸ hq), new.2 q hq⟩
    rw [List.cons_append, checkPartitions, if_neg (Nat.not_le.2 known.1), if_neg new.1,
      ih later known.2 distinct, List.reverse_cons, List.append_assoc, List.singleton_append]

theorem FirstFault.checkPartitions_eq (fault : FirstFault count ps e) :
    checkPartitions count [] ps = .error e := by
  have reach {i p : Nat} (before : Valid count (ps.take i)) (here : ps[i]? = some p) :
      checkPartitions count [] ps =
        checkPartitions count (ps.take i).reverse (p :: ps.drop (i + 1)) := by
    obtain ⟨lt, rfl⟩ := List.getElem?_eq_some_iff.1 here
    conv_lhs => rw [← List.take_append_drop i ps, List.drop_eq_getElem_cons lt]
    rw [checkPartitions_append before (by simp), List.append_nil]
  cases fault with
  | unknown before here beyond => rw [reach before here, checkPartitions, if_pos beyond]; rfl
  | repeated before here again =>
    rw [reach before here, checkPartitions, if_neg (Nat.not_le.2 (before.known _ again)),
      if_pos (List.mem_reverse.2 again)]
    rfl

theorem checkPartitions_eq_ok_iff : checkPartitions count [] ps = .ok () ↔ Valid count ps := by
  refine ⟨fun passes => ?_, fun valid => checkPartitions_eq_ok valid.distinct valid.known (by simp)⟩
  refine (valid_or_firstFault count ps).resolve_right ?_
  rintro ⟨e, fault⟩
  cases passes.symm.trans fault.checkPartitions_eq

end Executor

namespace QueryPool

open Executor (Valid FirstFault merge? combineAll)

variable {s : QueryPool} {k : Nat} {q' : PooledQuery} {p' : Pool} {r : QueryRequest} {e : GridError}

/-! ## Refused queries -/

/-- A refused query has nothing left to do. -/
theorem Turns.refused (h : Turns s (.refused r e) p' q') : q' = .refused r e := by
  have closed (c : Closing Yield) : (PooledQuery.refused r e).close c = .refused r e :=
    PooledQuery.close_of_closing rfl c
  have settled : (PooledQuery.refused r e).settle = .refused r e := by
    unfold PooledQuery.settle
    split
    · exact closed _
    · rfl
  cases h with
  | worked task | returned task | reported task => cases task
  | settled => exact settled
  | overdue => rw [settled, closed]
  | dropped => exact closed _
  | called next => cases next

theorem refused_step (h : s.queries[k]? = some (.refused r e)) (event : Event) :
    (s.step event).queries[k]? = some (.refused r e) := by
  obtain ⟨lt, -⟩ := List.getElem?_eq_some_iff.1 h
  have moves := moves_step s event
  generalize s.step event = s' at moves
  cases moves with
  | idle | turned => exact h
  | refused | asked => rw [List.getElem?_append_left lt, h]
  | @changed n q q' p' known turns =>
    by_cases here : n = k
    · subst here
      obtain rfl := Option.some.inj (known.symm.trans h)
      rw [List.getElem?_set_self lt, turns.refused]
    · rw [List.getElem?_set_ne here, h]

theorem refused_run (h : s.queries[k]? = some (.refused r e)) (es : List Event) :
    (s.run es).queries[k]? = some (.refused r e) := by
  induction es generalizing s with
  | nil => exact h
  | cons event es ih => exact ih (refused_step h event)

/-- A refused query shows no task. -/
theorem not_shows_refused (h : s.queries[k]? = some (.refused r e)) (test : Activity → Bool)
    (i : Nat) : s.shows test k i = false := by
  simp [shows, task?, h, PooledQuery.refused]

/-- Nothing that tasks do is done for a refused query. -/
theorem count_refused (h : s.queries[k]? = some (.refused r e)) (i : Nat) (es : List Event) :
    Run.count step (beginsScan k i) s es = 0 ∧ Run.count step (foldsEntry k i) s es = 0 := by
  have never {test : QueryPool → Event → Bool}
      (idle : ∀ s event, s.queries[k]? = some (.refused r e) → test s event = false) :
      Run.count step test s es = 0 := by
    refine (Run.count_le step (I := fun s => s.queries[k]? = some (.refused r e))
      (F := fun _ => False) (fun s event h => refused_step h event) (fun s event h passes => ?_)
      (fun _ _ _ => id) h es).2 id
    rw [idle s event h] at passes
    cases passes
  exact ⟨never fun s event h => by
      simp [beginsScan, not_shows_refused (refused_step h event)],
    never fun s event h => by simp [foldsEntry, not_shows_refused h]⟩

theorem ask_of_valid (valid : Valid r.executor.scanner.partitionCount r.partitions) :
    s.ask r =
      ⟨submitAll s.pool r.partitions, s.queries ++ [.fanned r s.pool.jobs.length]⟩ := by
  rw [ask, Executor.checkPartitions_eq_ok_iff.2 valid]

theorem ask_of_firstFault
    (fault : FirstFault r.executor.scanner.partitionCount r.partitions e) :
    s.ask r = { s with queries := s.queries ++ [.refused r e] } := by
  rw [ask, fault.checkPartitions_eq]

/-- A list of partitions passes just when all of its ids are below the number of partitions and none
is repeated; the query then has a task for each of them. Otherwise there is a first bad position,
and its error is the answer of the query, on its own or on a pool. There the query leaves the pool
as it was and never has a task, so that in no run a scan begins or an entry is folded for it. -/
theorem bad_list_starts_nothing (x : Executor) (c : String) (matching : Entry → Bool)
    (ps : List Nat) :
    let n := x.scanner.partitionCount
    (Executor.checkPartitions n [] ps = .ok () ↔ (∀ p ∈ ps, p < n) ∧ ps.Nodup) ∧
    ((∀ p ∈ ps, p < n) ∧ ps.Nodup →
      (∀ paging, x.execute c matching paging ps =
        (x.fanOut (x.scanTask c matching) ps).map (merge? paging)) ∧
      (∀ a, x.aggregate c matching a ps =
        (x.fanOut (x.foldTask c matching a) ps >>= combineAll a).map Aggregator.result?) ∧
      ∀ (s : QueryPool) (purpose : Purpose), let r : QueryRequest := ⟨x, c, matching, purpose, ps⟩
        s.ask r = ⟨submitAll s.pool ps, s.queries ++ [.fanned r s.pool.jobs.length]⟩) ∧
    (¬ ((∀ p ∈ ps, p < n) ∧ ps.Nodup) → ∃ e, FirstFault n ps e) ∧
    ∀ e, FirstFault n ps e →
      (∀ paging, x.execute c matching paging ps = .error e) ∧
      (∀ a, x.aggregate c matching a ps = .error e) ∧
      ∀ (s : QueryPool) (purpose : Purpose), let r : QueryRequest := ⟨x, c, matching, purpose, ps⟩
        (s.ask r).pool = s.pool ∧
        ∀ es : List Event,
          ((s.ask r).run es).queries[s.queries.length]? = some (.refused r e) ∧
          ∀ i, Run.count step (beginsScan s.queries.length i) (s.ask r) es = 0 ∧
            Run.count step (foldsEntry s.queries.length i) (s.ask r) es = 0 := by
  intro n
  refine ⟨Executor.checkPartitions_eq_ok_iff.trans ⟨fun h => ⟨h.1, h.2⟩, fun h => ⟨h.1, h.2⟩⟩,
    fun ⟨known, distinct⟩ => ⟨fun _ => Executor.execute_eq_merge? distinct known,
      Executor.aggregate_eq distinct known, fun s purpose => ask_of_valid ⟨known, distinct⟩⟩,
    fun bad => (Executor.valid_or_firstFault n ps).resolve_left fun valid =>
      bad ⟨valid.known, valid.distinct⟩,
    fun e fault => ⟨fun paging => ?_, fun a => ?_, fun s purpose => ?_⟩⟩
  · rw [Executor.execute, fault.checkPartitions_eq]
    rfl
  · rw [Executor.aggregate, fault.checkPartitions_eq]
    rfl
  · dsimp only
    rw [ask_of_firstFault fault]
    have asked : (s.queries ++ [PooledQuery.refused ⟨x, c, matching, purpose, ps⟩ e])[
        s.queries.length]? = some (.refused ⟨x, c, matching, purpose, ps⟩ e) :=
      List.getElem?_concat_length
    exact ⟨rfl, fun es => ⟨refused_run asked es, fun i => count_refused asked i es⟩⟩

/-- Of three partitions one is named twice, before an id of none, while a query has the slot. -/
theorem bad_list_starts_nothing_repeated :
    let x : Executor := ⟨⟨3, fun _ _ _ => .ok [⟨"a", .long 1⟩], fun _ => 1⟩, 1, ⟨3⟩⟩
    let fold : Purpose := .fold (Catalog.fresh "count" .count none)
    let s := (ofCapacity 1).run [.ask ⟨x, "c", fun _ => true, fold, [2, 0]⟩, .turn 0]
    let bad : QueryRequest := ⟨x, "c", fun _ => true, fold, [2, 0, 2, 7]⟩
    let e : GridError := .invalidRequest (.repeatedPartition 2)
    s.pool.jobs.length = 2 ∧ x.execute "c" (fun _ => true) none bad.partitions = .error e ∧
      (s.ask bad).pool = s.pool ∧
      ∀ es : List Event, ((s.ask bad).run es).queries[1]? = some (.refused bad e) ∧
        Run.count step (beginsScan 1 0) (s.ask bad) es = 0 := by
  intro x fold s bad e
  have fault : FirstFault 3 [2, 0, 2, 7] e :=
    .repeated (i := 2) ⟨by decide, by decide⟩ rfl (by decide)
  obtain ⟨executes, -, starts⟩ :=
    (bad_list_starts_nothing x "c" (fun _ => true) [2, 0, 2, 7]).2.2.2 e fault
  obtain ⟨pool, later⟩ := starts s fold
  exact ⟨rfl, executes none, pool, fun es => ⟨(later es).1, ((later es).2 0).1⟩⟩

end QueryPool

end DataGrid
