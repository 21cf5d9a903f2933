import DataGrid.Proofs.Query.Aggregation
import DataGrid.Proofs.Query.Progress

/-!
# Merging the scans of partitions

A query gets its entries from tasks that the pool starts and finishes in an order of its own, while
the deadline may come at any time. Main statement: nothing of that shows in what it returns
(`execute_any_order`).
-/

namespace DataGrid.Executor

open FanOut

/-- The tasks of a query, before anything has happened. -/
def scans (x : Executor) (c : String) (matching : Entry → Bool) (ps : List Nat) :
    FanOut (List Entry) :=
  new x.capacity x.timeout (ps.map (x.scanTask c matching))

/-- What a query has returned after some events, if it has returned. -/
def executeIn (x : Executor) (c : String) (matching : Entry → Bool) (paging : Option Paging)
    (ps : List Nat) (es : List Event) : Option (Except GridError (Option (List Entry))) :=
  match checkPartitions x.scanner.partitionCount [] ps with
  | .error e => some (.error e)
  | .ok () =>
    match ((x.scans c matching ps).runAll es).closing with
    | some (.returned r) => some (r.map (merge? paging))
    | some .dropped | none => none

variable {x : Executor} {c : String} {matching : Entry → Bool} {paging : Option Paging}
  {ps : List Nat}

theorem executeIn_eq_some_iff (distinct : ps.Nodup)
    (valid : ∀ p ∈ ps, p < x.scanner.partitionCount) {es : List Event}
    {r : Except GridError (Option (List Entry))} :
    x.executeIn c matching paging ps es = some r ↔
      ∃ s, ((x.scans c matching ps).runAll es).closing = some (.returned s) ∧
        r = s.map (merge? paging) := by
  rw [executeIn, checkPartitions_eq_ok distinct valid (by simp)]
  dsimp only
  split
  · next s closed => simp [closed, eq_comm]
  · next closed => simp [closed]
  · next closed => simp [closed]

theorem results?_scanTask_iff {parts : List (List Entry)} :
    results? (ps.map (x.scanTask c matching)) = some parts ↔
      ps.map (x.scanner.scan c matching) = parts.map Except.ok := by
  rw [results?_eq_some_iff, List.map_map]
  rfl

theorem sound_scans (es : List Event) :
    ((x.scans c matching ps).runAll es).Sound (ps.map (x.scanTask c matching)) x.timeout :=
  sound_runAll (sound_new x.capacity x.timeout _) es

/-- In any order of starts and ends, and whenever time may run out: a query without paging returns
the entries of all its partitions, in the order of the list, and a query with paging the page of
them, if their sort comes to one; it fails because time has run out or because a scan has, with the
error of one that has; and if all scans succeed and time does not run out, it does return. -/
theorem execute_any_order (distinct : ps.Nodup)
    (valid : ∀ p ∈ ps, p < x.scanner.partitionCount) :
    (∃ es, x.executeIn c matching paging ps es = some (x.execute c matching paging ps)) ∧
      (∀ es r, x.executeIn c matching paging ps es = some (.ok r) →
        ∃ parts, ps.map (x.scanner.scan c matching) = parts.map Except.ok ∧
          r = merge? paging parts) ∧
      (∀ es e, x.executeIn c matching paging ps es = some (.error e) →
        e = .deadlineExceeded x.timeout ∨
          ∃ p ∈ ps, ∃ cause, x.scanner.scan c matching p = .error cause ∧
            e = .taskFailure p cause) ∧
      ∀ parts, ps.map (x.scanner.scan c matching) = parts.map Except.ok →
        ∀ es, (x.scans c matching ps).Diligent es →
          ∃ n, x.executeIn c matching paging ps ((List.range n).map es) =
            some (.ok (merge? paging parts)) := by
  refine ⟨?_, fun es r returned => ?_, fun es e returned => ?_, fun parts ok es diligent => ?_⟩
  · obtain ⟨es, closed⟩ := exists_runAll_outcome x.capacity x.timeout
      (ps.map fun p => (x.scanTask c matching p, x.scanner.delay p))
    rw [List.map_map] at closed
    refine ⟨es, (executeIn_eq_some_iff distinct valid).2 ⟨_, closed, ?_⟩⟩
    exact execute_eq_merge? distinct valid
  · obtain ⟨s, closed, hr⟩ := (executeIn_eq_some_iff distinct valid).1 returned
    cases s with
    | error e => cases hr
    | ok parts =>
      refine ⟨parts, results?_scanTask_iff.1 ((sound_scans es).results parts closed), ?_⟩
      exact Except.ok.inj hr
  · obtain ⟨s, closed, hr⟩ := (executeIn_eq_some_iff distinct valid).1 returned
    cases s with
    | ok parts => cases hr
    | error e' =>
      obtain rfl : e = e' := Except.error.inj hr
      rcases (sound_scans es).failures e closed with late | ⟨t, ht, cause, failed, rfl⟩
      · exact .inl late
      · obtain ⟨p, hp, rfl⟩ := List.mem_map.1 ht
        exact .inr ⟨p, hp, cause, failed, rfl⟩
  · obtain ⟨n, r, closed, byTasks⟩ := (underWay_new _ _ _).exists_returned diligent
    refine ⟨n, (executeIn_eq_some_iff distinct valid).2 ⟨r, closed, ?_⟩⟩
    have sound : ((x.scans c matching ps).runAll ((List.range n).map es)).Sound
        (ps.map (x.scanTask c matching)) x.timeout := sound_scans _
    have results := results?_scanTask_iff.2 ok
    cases r with
    | ok parts' =>
      obtain rfl := Option.some.inj (results.symm.trans (sound.results parts' closed))
      rfl
    | error e =>
      have failed := (byTasks e rfl).results?
      rw [stateAt, ← scans, sound.tasks, results] at failed
      cases failed

/-- Two partitions whose tasks take turns at one slot. -/
theorem execute_any_order_turns :
    let x : Executor := ⟨⟨2, fun _ matching p =>
      .ok ([⟨"a", .long (.ofNat p)⟩, ⟨"b", .null⟩].filter matching), fun _ => 1⟩, 1, ⟨3⟩⟩
    (∃ es, x.executeIn "c" (·.key == "a") none [1, 0] es =
      some (x.execute "c" (·.key == "a") none [1, 0])) ∧
    ∃ n, x.executeIn "c" (·.key == "a") none [1, 0] ((List.range n).map (roundRobin 2)) =
      some (.ok (some [⟨"a", .long 1⟩, ⟨"a", .long 0⟩])) := by
  intro x
  obtain ⟨inOrder, -, -, inTurn⟩ :=
    @execute_any_order x "c" (·.key == "a") none [1, 0] (by decide) (by decide)
  refine ⟨inOrder, inTurn [[⟨"a", .long 1⟩], [⟨"a", .long 0⟩]] rfl (roundRobin 2) ?_⟩
  exact diligent_roundRobin 1 ⟨3⟩ ([1, 0].map (x.scanTask "c" (·.key == "a")))

end DataGrid.Executor
