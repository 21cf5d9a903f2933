import DataGrid.Proofs.Pool.Accounting
import DataGrid.Proofs.Schedule.Interleaving

/-!
# The slots of a schedule

The pool of a schedule goes through a run of the pool alone, and a job that is cancelled gives its
slot back before time goes by, unless it has blocking work. Main statement: `slots_accounted`.
-/

namespace DataGrid.Schedule

open Pool (ofCapacity)

variable {s s' s'' : Schedule} {i : Nat} {j : PoolJob}

/-! ## Steps of the pool -/

/-- What comes of a schedule while no time goes by and no turn leaves the line. -/
structure Follows (s s' : Schedule) : Prop where
  pool : ∃ es, s'.pool = s.pool.run es
  ready : s.ready <+: s'.ready
  count : s'.assignments.length = s.assignments.length
  now : s'.now = s.now

theorem Follows.refl (s : Schedule) : Follows s s := ⟨⟨[], rfl⟩, List.prefix_rfl, rfl, rfl⟩

theorem Follows.trans (h : Follows s s') (k : Follows s' s'') : Follows s s'' := by
  obtain ⟨es, pool⟩ := h.pool
  obtain ⟨es', pool'⟩ := k.pool
  exact ⟨⟨es ++ es', by rw [pool', pool, Pool.run_append]⟩, h.ready.trans k.ready,
    k.count.trans h.count, k.now.trans h.now⟩

theorem follows_wake (s : Schedule) (t : Turn) : Follows s (s.wake t) := by
  unfold wake
  split
  · exact .refl s
  · exact ⟨⟨[], rfl⟩, List.prefix_append _ _, rfl, rfl⟩

theorem follows_wakeRetirement (s : Schedule) (c : Nat) : Follows s (s.wakeRetirement c) := by
  unfold wakeRetirement
  split
  · exact follows_wake s _
  · exact .refl s

theorem follows_setService (s : Schedule) (service : TaskService) :
    Follows s { s with service } := ⟨⟨[], rfl⟩, List.prefix_rfl, rfl, rfl⟩

theorem follows_report (s : Schedule) (lines : List String) : Follows s (s.report lines) :=
  ⟨⟨[], rfl⟩, List.prefix_rfl, rfl, rfl⟩

theorem follows_setOutcome (s : Schedule) (i : Nat) (r : Except GridError Json) :
    Follows s (s.setOutcome i r) := ⟨⟨[], rfl⟩, List.prefix_rfl, by simp [setOutcome], rfl⟩

theorem follows_stopTimer (s : Schedule) (i : Nat) : Follows s (s.stopTimer i) :=
  ⟨⟨[], rfl⟩, List.prefix_rfl, rfl, rfl⟩

theorem follows_setPool (s : Schedule) (e : Pool.Event) :
    Follows s (s.setPool (s.pool.step e)) := by
  have pool : Follows s { s with pool := s.pool.step e } :=
    ⟨⟨[e], rfl⟩, List.prefix_rfl, rfl, rfl⟩
  unfold setPool
  split
  · exact pool.trans (follows_wake _ _)
  · exact pool

theorem follows_fire (s : Schedule) (i : Nat) : Follows s (s.fire i) := by
  have fired : Follows s { s with pool := s.pool.fire i } :=
    ⟨⟨[.fire i], rfl⟩, List.prefix_rfl, rfl, rfl⟩
  simp only [fire]
  split
  · exact fired.trans (follows_wake _ _)
  · split
    · exact fired.trans (follows_wake _ _)
    · exact fired
  · exact fired

theorem follows_abort (s : Schedule) (i : Nat) : Follows s (s.abort i) := by
  have aborted : Follows s { s with pool := s.pool.abort i } :=
    ⟨⟨[.abort i], rfl⟩, List.prefix_rfl, rfl, rfl⟩
  simp only [abort]
  split
  · exact aborted
  · exact aborted
  · exact aborted.trans (follows_wake _ _)

theorem follows_finish (s : Schedule) (i : Nat) (a : Assignment) (e : Ending) :
    Follows s (s.finish i a e) := by
  have reported := (follows_report s e.lines).trans (follows_stopTimer _ i)
  have returned (s : Schedule) :
      Follows s ((s.setPool (s.pool.complete i)).setOutcome i e.result) :=
    (follows_setPool s (.complete i)).trans (follows_setOutcome _ i _)
  unfold finish
  cases a.cell with
  | none => exact reported.trans (returned _)
  | some c =>
    exact (reported.trans (follows_setService _ _)).trans
      ((follows_wakeRetirement _ c).trans (returned _))

theorem follows_beginWork (s : Schedule) (i : Nat) (j : PoolJob) (a : Assignment) :
    Follows s (s.beginWork i j a) := by
  have opens (s : Schedule) : Follows s
      (let s := s.report a.work.opening
       if j.blocking || a.work.duration == 0 then s.finish i a (a.work.ending j.fired)
       else { s with timers := s.timers ++ [(s.now + a.work.duration, i)] }) := by
    dsimp only
    split
    · exact (follows_report s _).trans (follows_finish _ i a _)
    · exact ⟨⟨[], rfl⟩, List.prefix_rfl, rfl, rfl⟩
  unfold beginWork
  cases a.cell with
  | none => exact opens s
  | some c =>
    have looked := (follows_setService s (s.service.start c).2).trans (follows_wakeRetirement _ c)
    cases admitted : (s.service.start c).1 with
    | false =>
      have ended (s : Schedule) :
          Follows s ((s.setPool (s.pool.complete i)).setOutcome i (.ok .null)) :=
        (follows_setPool s (.complete i)).trans (follows_setOutcome _ i _)
      simpa [admitted] using looked.trans (ended _)
    | true => simpa [admitted] using looked.trans (opens _)

theorem follows_continueWork (s : Schedule) (i : Nat) (j : PoolJob) (a : Assignment) :
    Follows s (s.continueWork i j a) := by
  unfold continueWork
  split
  · exact follows_finish s i a _
  · split
    · exact .refl s
    · exact follows_finish s i a _

/-- The pool takes the turn first. -/
theorem follows_turn {a : Assignment} (known : s.pool.jobs[i]? = some j)
    (hi : s.assignments[i]? = some a) : Follows (s.setPool (s.pool.turn i)) (s.jobTurn i) := by
  simp only [jobTurn, known, hi]
  split
  · exact .refl _
  · exact (follows_stopTimer _ i).trans (follows_setOutcome _ i _)
  · exact follows_continueWork _ i j a
  · exact follows_beginWork _ i j a
  · exact .refl _

theorem follows_take (s : Schedule) (t : Turn) : Follows s (s.take t) := by
  cases t with
  | job i =>
    cases known : s.pool.jobs[i]? with
    | none =>
      simp only [take, jobTurn, known]
      exact .refl s
    | some j =>
      cases hi : s.assignments[i]? with
      | none =>
        simp only [take, jobTurn, known, hi]
        exact .refl s
      | some a => exact (follows_setPool s (.turn i)).trans (follows_turn known hi)
  | retirement c =>
    simp only [take, retirementTurn]
    split
    · split
      · exact ⟨⟨[], rfl⟩, List.prefix_rfl, rfl, rfl⟩
      · exact .refl s
    · exact .refl s

/-! ## Runs of the pool -/

/-- The one pool comes to the other by some run. -/
def Pooled (s s' : Schedule) : Prop := ∃ es, s'.pool = s.pool.run es

theorem Pooled.refl (s : Schedule) : Pooled s s := ⟨[], rfl⟩

theorem Pooled.trans (h : Pooled s s') (k : Pooled s' s'') : Pooled s s'' := by
  obtain ⟨es, pool⟩ := h
  obtain ⟨es', pool'⟩ := k
  exact ⟨es ++ es', by rw [pool', pool, Pool.run_append]⟩

theorem Follows.pooled (h : Follows s s') : Pooled s s' := h.pool

theorem pooled_runTurns (n : Nat) (s : Schedule) : Pooled s (s.runTurns n) := by
  induction n generalizing s with
  | zero => exact .refl s
  | succ n ih =>
    unfold runTurns
    split
    · exact .refl s
    · next t r _ =>
      have taken : Pooled s ({ s with ready := r }.take t) :=
        (follows_take { s with ready := r } t).pool
      exact taken.trans (ih _)

theorem now_runTurns (n : Nat) (s : Schedule) : (s.runTurns n).now = s.now := by
  induction n generalizing s with
  | zero => rfl
  | succ n ih =>
    unfold runTurns
    split
    · rfl
    · next t r _ => exact (ih _).trans (follows_take { s with ready := r } t).now

theorem pooled_moveTo (s : Schedule) (t : Nat) : Pooled s (s.moveTo t) := by
  have wakes (due : List (Nat × Nat)) (s : Schedule) :
      Follows s (due.foldl (fun s d => s.wake (.job d.2)) s) := by
    induction due generalizing s with
    | nil => exact .refl s
    | cons d due ih => exact (follows_wake s _).trans (ih _)
  exact (wakes _ { s with now := t, timers := s.timers.filter (t < ·.1) }).pool

theorem pooled_runUntil (stop : Schedule → Bool) (target n : Nat) (s : Schedule) :
    Pooled s (runUntil stop target n s) := by
  have settled (s : Schedule) : Pooled s s.settle := pooled_runTurns _ s
  induction n generalizing s with
  | zero => exact settled s
  | succ n ih =>
    refine (settled s).trans ?_
    unfold runUntil
    dsimp only
    split
    · exact .refl _
    · split
      · split
        · exact (pooled_moveTo _ _).trans (ih _)
        · exact .refl _
      · exact .refl _

theorem pooled_assign (s : Schedule) (a : Assignment) (blocking : Bool) :
    Pooled s (s.assign a blocking) := by
  obtain ⟨es, pool⟩ := (follows_wake { s with
    pool := s.pool.submit blocking, assignments := s.assignments ++ [a] } _).pool
  exact ⟨.submit blocking :: es, pool⟩

theorem pooled_submitTask (s : Schedule) (r : Registry) (id : String) (t : Task) :
    Pooled s (s.submitTask r id t).2 := by
  unfold submitTask
  split
  · exact .refl s
  · next c service _ =>
    have assigned : Pooled s
        ({ s with service, unretired := c :: s.unretired }.assign ⟨r.work t, some c, none⟩ false) :=
      pooled_assign { s with service, unretired := c :: s.unretired } _ _
    exact assigned.trans (follows_wake _ _).pool

theorem pooled_cancelCell (s : Schedule) (c : Nat) (interrupt : Bool) :
    Pooled s (s.cancelCell c interrupt).2 := by
  have woken := (follows_setService s (s.service.cancelCell c interrupt).2).trans
    (follows_wakeRetirement _ c)
  unfold cancelCell
  dsimp only
  split
  · split
    · split
      · exact (woken.trans (follows_fire _ _)).pool
      · exact woken.pool
    · exact woken.pool
  · exact .refl s

theorem pooled_cancelTask (s : Schedule) (id : String) (interrupt : Bool) :
    Pooled s (s.cancelTask id interrupt).2 := by
  unfold cancelTask
  split
  · exact pooled_cancelCell s _ interrupt
  · exact .refl s

theorem follows_cancelJob (s : Schedule) (i : Nat) : Follows s (s.cancelJob i) :=
  (follows_fire s i).trans (follows_abort _ i)

theorem Reached.pool {limit : Nat} (h : Reached limit s) :
    ∃ n es, s.pool = (ofCapacity n).run es := by
  have later {s s' : Schedule} (ih : ∃ n es, s.pool = (ofCapacity n).run es) (k : Pooled s s') :
      ∃ n es, s'.pool = (ofCapacity n).run es := by
    obtain ⟨n, es, pool⟩ := ih
    obtain ⟨es', pool'⟩ := k
    exact ⟨n, es ++ es', by rw [pool', pool, Pool.run_append]⟩
  induction h with
  | new capacity => exact ⟨capacity, [], rfl⟩
  | submitWork h w blocking ih => exact later ih (pooled_assign _ _ _)
  | submitTask h r id t ih => exact later ih (pooled_submitTask _ r id t)
  | cancelJob h i ih => exact later ih (follows_cancelJob _ i).pool
  | cancelCell h c interrupt ih => exact later ih (pooled_cancelCell _ c interrupt)
  | cancelTask h id interrupt ih => exact later ih (pooled_cancelTask _ id interrupt)
  | runUntil h stop target n ih => exact later ih (pooled_runUntil stop target n _)

theorem Reached.count {limit : Nat} (h : Reached limit s) :
    s.assignments.length = s.pool.jobs.length := by
  obtain ⟨es, traces⟩ := h.traces
  simp [traces.count, cells]

/-! ## Cancelled jobs -/

/-- A job that is aborted while it stands in line for its turn has ended when the line is
through. -/
theorem runTurns_aborted (orderly : s.pool.Orderly) (assigned : i < s.assignments.length)
    (known : s.pool.jobs[i]? = some j) (aborted : j.aborted = true) (async : j.blocking = false)
    {before after : List Turn} (ready : s.ready = before ++ .job i :: after) {n : Nat}
    (enough : before.length < n) : (s.runTurns n).pool.stage? i = some .ended := by
  induction n generalizing s j before after with
  | zero => exact absurd enough (Nat.not_lt_zero _)
  | succ n ih =>
    cases before with
    | nil =>
      have turned := follows_turn (s := { s with ready := after }) known
        (List.getElem?_eq_getElem assigned)
      obtain ⟨es, pool⟩ := turned.pool
      obtain ⟨es', pool'⟩ := pooled_runTurns n ({ s with ready := after }.jobTurn i)
      rw [pool_setPool] at pool
      simp only [runTurns, ready, List.nil_append, take]
      rw [pool', pool]
      exact Pool.run_ended (Pool.run_ended (Pool.turn_aborted orderly known aborted async).1 _) _
    | cons t before =>
      simp only [runTurns, ready, List.cons_append]
      have taken := follows_take { s with ready := before ++ .job i :: after } t
      obtain ⟨es, pool⟩ := taken.pool
      obtain ⟨more, line⟩ := taken.ready
      obtain ⟨j', known', later⟩ := Pool.later_run known es
      rw [List.append_assoc, List.cons_append] at line
      refine ih ?_ (taken.count ▸ assigned) (pool ▸ known') (later.aborted aborted)
        (later.blocking.trans async) line.symm (by simpa using enough)
      exact pool ▸ orderly.run es

theorem mem_wake (s : Schedule) (t : Turn) : t ∈ (s.wake t).ready := by
  unfold wake
  split
  · assumption
  · simp

theorem pool_abort (s : Schedule) (i : Nat) : (s.abort i).pool = s.pool.abort i := by
  simp only [abort]
  split
  · rfl
  · rfl
  · exact pool_wake _ _

theorem ready_abort (s : Schedule) (i : Nat) :
    .job i ∈ (s.abort i).ready ∨ (s.abort i).pool.stage? i = some .ended ∨
      (s.abort i).pool.stage? i = none := by
  rw [pool_abort]
  simp only [abort]
  split
  · next ended => exact .inr (.inl ended)
  · next missing => exact .inr (.inr missing)
  · exact .inl (mem_wake _ _)

theorem settle_abort (orderly : s.pool.Orderly) (assigned : i < s.assignments.length)
    (known : s.pool.jobs[i]? = some j) (async : j.blocking = false) :
    (s.abort i).settle.pool.stage? i = some .ended := by
  have follows := follows_abort s i
  have marked : (s.abort i).pool.jobs[i]? = some { j with aborted := true } := by
    simp [pool_abort, Pool.abort, Pool.modifyJob, known]
  rcases ready_abort s i with line | ended | missing
  · obtain ⟨before, after, ready⟩ := List.append_of_mem line
    refine runTurns_aborted ?_ (follows.count ▸ assigned) marked rfl async ready ?_
    · rw [pool_abort]
      exact orderly.step (.abort i)
    · simp [ready]
      omega
  · obtain ⟨es, pool⟩ := pooled_runTurns _ (s.abort i)
    rw [settle, pool]
    exact Pool.run_ended ended es
  · simp [Pool.stage?_of_known marked] at missing

theorem Reached.settle_cancelJob {limit : Nat} (h : Reached limit s)
    (known : s.pool.jobs[i]? = some j) (async : j.blocking = false) :
    i ∉ (s.cancelJob i).settle.pool.slots.holding := by
  obtain ⟨n, es, pool⟩ := h.pool
  have orderly : s.pool.Orderly := pool ▸ (Pool.orderly_ofCapacity n).run es
  have assigned : i < s.assignments.length := by
    rw [h.count]
    exact (List.getElem?_eq_some_iff.1 known).1
  have fired := follows_fire s i
  obtain ⟨fs, pool⟩ := fired.pool
  obtain ⟨j', known', later⟩ := Pool.later_run known fs
  rw [← pool] at known'
  have ended : (s.cancelJob i).settle.pool.stage? i = some .ended :=
    settle_abort (pool ▸ orderly.run fs) (fired.count ▸ assigned) known'
      (later.blocking.trans async)
  obtain ⟨gs, pool⟩ := (follows_cancelJob s i).pooled.trans (pooled_runTurns _ _)
  have after : (s.cancelJob i).settle.pool.Orderly := by
    rw [settle, pool]
    exact orderly.run gs
  exact after.not_mem_holding (by simp [ended]) (by simp [ended])

/-- Jobs that are submitted, cancelled, aborted and have their turns in any order keep account of
the slots: each is free or held by one job that has not ended. A job works once at most, and with a
slot; whoever is cancelled before that never does. An aborted job gives its slot back at its next
turn, which comes before any time goes by, and blocking work keeps it until it returns. -/
theorem slots_accounted (n : Nat) (es : List Pool.Event) :
    let p := (ofCapacity n).run es
    (p.slots.free + p.slots.holding.length = max n 1 ∧ p.slots.holding.Nodup ∧
      (∀ i ∈ p.slots.holding, p.stage? i = some .waiting ∨ p.stage? i = some .working) ∧
      p.working.length ≤ max n 1) ∧
    (∀ i, Run.count Pool.step (Pool.begins i) (ofCapacity n) es ≤ 1 ∧
      (p.stage? i = some .working → i ∈ p.slots.holding)) ∧
    (∀ i j, p.jobs[i]? = some j → j.fired = true ∨ j.aborted = true → j.stage ≠ .working →
      ∀ more, (p.run more).stage? i ≠ some .working) ∧
    (∀ i j, p.jobs[i]? = some j → j.blocking = false →
      (j.aborted = true → i ∉ (p.turn i).slots.holding ∧
        (i ∈ p.slots.holding → (p.turn i).slots.free = p.slots.free + 1 ∨
          ∃ k, p.slots.waiting.head? = some k ∧ k ∈ (p.turn i).slots.holding)) ∧
      ∀ limit s, Reached limit s → s.pool = p →
        i ∉ (s.cancelJob i).settle.pool.slots.holding ∧ (s.cancelJob i).settle.now = s.now) ∧
    ∀ i j, p.jobs[i]? = some j → j.blocking = true → j.stage = .working →
      ∀ more, .complete i ∉ more → i ∈ (p.run more).slots.holding := by
  intro p
  have orderly : p.Orderly := (Pool.orderly_ofCapacity n).run es
  have capacity : p.slots.capacity = max n 1 := Pool.capacity_run (ofCapacity n) es
  refine ⟨⟨?_, ?_, orderly.held, ?_⟩, fun i => ⟨Pool.count_begins _ i es, orderly.working i⟩,
    fun i j known off early => ?_, fun i j known async => ⟨fun aborted => ?_, ?_⟩,
    fun i j known blocks works more goesOn => ?_⟩
  · exact capacity ▸ orderly.accounted
  · exact (List.nodup_append.1 orderly.nodup).1
  · exact capacity ▸ Pool.length_working_le orderly
  · exact Pool.run_calledOff known (by simpa [PoolJob.isCalledOff] using off) early
  · obtain ⟨ended, slots⟩ := Pool.turn_aborted orderly known aborted async
    refine ⟨?_, fun holds => slots holds ▸ Slots.release_of_mem holds⟩
    exact (orderly.step (.turn i)).not_mem_holding (by simp [Pool.step, ended])
      (by simp [Pool.step, ended])
  · intro limit s reached pool
    refine ⟨reached.settle_cancelJob (pool ▸ known) async, ?_⟩
    exact (now_runTurns _ _).trans (follows_cancelJob s i).now
  · have stage : p.stage? i = some .working := works ▸ Pool.stage?_of_known known
    exact (orderly.run more).working i (Pool.run_blocking known blocks stage goesOn)

end DataGrid.Schedule
