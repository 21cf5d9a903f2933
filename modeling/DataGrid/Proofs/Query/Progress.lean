import DataGrid.Proofs.Query.FanOut

/-!
# The wait for the tasks of a query ends

Until the wait has ended some task can start or go on, and each that does leaves less to do. Main
statement: tasks that are given their turns, with neither the deadline nor the caller in between,
bring the wait to its end.
-/

namespace DataGrid.FanOut

variable {α : Type} {f : FanOut α} {t : PartitionTask α × Progress} {i : Nat}

/-! ## What is left to do -/

/-- The turns a task needs to its end. -/
def turnsLeft : PartitionTask α × Progress → Nat
  | (t, .queued) => max t.units 1 + 1
  | (_, .running n) => max n 1
  | (_, .finished) | (_, .cancelled) => 0

def allTurnsLeft (f : FanOut α) : Nat := (f.tasks.map turnsLeft).sum

@[simp] theorem settle_tasks (f : FanOut α) : f.settle.tasks = f.tasks := by
  unfold settle
  split <;> rfl

@[simp] theorem settle_settle (f : FanOut α) : f.settle.settle = f.settle := by
  unfold settle
  cases hc : f.closing with
  | some c => simp [hc]
  | none => cases verdict? f.tasks <;> simp

theorem sum_modify_lt {l : List (PartitionTask α × Progress)} {p : Progress} (h : l[i]? = some t)
    (less : turnsLeft (t.1, p) < turnsLeft t) :
    ((l.modify i fun t => (t.1, p)).map turnsLeft).sum < (l.map turnsLeft).sum := by
  induction l generalizing i with
  | nil => cases h
  | cons u l ih =>
    cases i with
    | zero =>
      obtain rfl := Option.some.inj h
      simpa using less
    | succ i =>
      have := ih (by simpa using h)
      simpa using this

theorem allTurnsLeft_setProgress {p : Progress} (h : f.tasks[i]? = some t)
    (less : turnsLeft (t.1, p) < turnsLeft t) : (f.setProgress i p).allTurnsLeft < f.allTurnsLeft :=
  sum_modify_lt h less

theorem startTask_cases (f : FanOut α) (i : Nat) :
    f.startTask i = f ∨ (f.startTask i).allTurnsLeft < f.allTurnsLeft := by
  unfold startTask
  split
  · next task h =>
    split
    · exact .inr (allTurnsLeft_setProgress h (by simp [turnsLeft]))
    · split
      · exact .inr (allTurnsLeft_setProgress h (by simp [turnsLeft]))
      · exact .inl rfl
  · exact .inl rfl

theorem runTask_cases (f : FanOut α) (i : Nat) :
    f.runTask i = f ∨ (f.runTask i).allTurnsLeft < f.allTurnsLeft := by
  unfold runTask
  split
  · next task left h =>
    split
    · exact .inr (allTurnsLeft_setProgress h (by simp only [turnsLeft]; omega))
    · split
      · exact .inr (allTurnsLeft_setProgress h (by simp only [turnsLeft]; omega))
      · exact .inr (allTurnsLeft_setProgress h (by simp only [turnsLeft]; omega))
  · exact .inl rfl

/-! ## A query under way -/

/-- There is room for a task, none is called off before the wait has ended, and what ended it was
the tasks. -/
structure Open (f : FanOut α) : Prop where
  room : 0 < f.capacity
  kept : f.closing = none → ∀ t ∈ f.tasks, t.2 ≠ .cancelled
  byTasks : ∀ c, f.closing = some c →
    ∃ r, c = .returned r ∧ ∀ e, r = .error e → Fails (f.tasks.map (·.1)) e

/-- A query that has ended if its tasks could end it. -/
structure UnderWay (f : FanOut α) : Prop extends Open f where
  settled : f.settle = f

theorem Open.settle (h : f.Open) : f.settle.UnderWay := by
  refine ⟨?_, settle_settle f⟩
  unfold FanOut.settle
  split
  · exact h
  · next waits =>
    refine ⟨h.room, fun _ => h.kept waits, fun c closed => ?_⟩
    obtain ⟨r, verdict, rfl⟩ := Option.map_eq_some_iff.1 closed
    refine ⟨r, rfl, ?_⟩
    rintro e rfl
    exact verdict?_spec verdict

theorem Open.setProgress (h : f.Open) {p : Progress} (hp : p = .cancelled → f.closing ≠ none) :
    (f.setProgress i p).Open := by
  refine ⟨h.room, fun waits t ht => ?_, ?_⟩
  · obtain ⟨j, hj, rfl⟩ := List.mem_iff_getElem.1 ht
    simp only [FanOut.setProgress, List.getElem_modify]
    split
    · exact fun e => hp e waits
    · exact h.kept waits _ (List.getElem_mem _)
  · rw [setProgress_tasks]
    exact h.byTasks

theorem Open.startTask (h : f.Open) (i : Nat) : (f.startTask i).Open := by
  unfold FanOut.startTask
  split
  · split
    · next ended => exact h.setProgress fun _ e => by simp [e] at ended
    · split
      · exact h.setProgress nofun
      · exact h
  · exact h

theorem Open.runTask (h : f.Open) (i : Nat) : (f.runTask i).Open := by
  unfold FanOut.runTask
  split
  · split
    · next ended => exact h.setProgress fun _ e => by simp [e] at ended
    · split <;> exact h.setProgress nofun
  · exact h

theorem underWay_new (capacity : Nat) (timeout : Duration) (ts : List (PartitionTask α)) :
    (new capacity timeout ts).UnderWay := by
  refine Open.settle ⟨?_, fun _ t ht => ?_, fun c closed => ?_⟩
  · dsimp only
    omega
  · obtain ⟨task, -, rfl⟩ := List.mem_map.1 ht
    simp
  · cases closed

/-- A turn of a task: it starts or goes on. -/
inductive Turn : Event → Prop
  | start (i : Nat) : Turn (.start i)
  | run (i : Nat) : Turn (.run i)

variable {e : Event}

theorem UnderWay.turn (h : f.UnderWay) (he : Turn e) : (f.step e).UnderWay := by
  cases he with
  | start i => exact (h.toOpen.startTask i).settle
  | run i => exact (h.toOpen.runTask i).settle

theorem allTurnsLeft_settle (f : FanOut α) : f.settle.allTurnsLeft = f.allTurnsLeft := by
  rw [allTurnsLeft, settle_tasks, allTurnsLeft]

/-- A turn either changes nothing or leaves less to do. -/
theorem UnderWay.turn_cases (h : f.UnderWay) (he : Turn e) :
    f.step e = f ∨ (f.step e).allTurnsLeft < f.allTurnsLeft := by
  cases he with
  | start i =>
    rcases f.startTask_cases i with same | less
    · exact .inl ((congrArg FanOut.settle same).trans h.settled)
    · exact .inr (by rwa [step, allTurnsLeft_settle])
  | run i =>
    rcases f.runTask_cases i with same | less
    · exact .inl ((congrArg FanOut.settle same).trans h.settled)
    · exact .inr (by rwa [step, allTurnsLeft_settle])

/-! ## No deadlock -/

/-- A finished task that has no result is reported with a failure. -/
theorem failure?_of_success? (finished : t.2 = .finished) (h : success? t = none) :
    ∃ e, failure? t = some e := by
  obtain ⟨task, p⟩ := t
  obtain rfl : p = .finished := finished
  unfold success? at h
  unfold failure?
  cases hr : task.result with
  | ok a => simp [hr, Except.toOption] at h
  | error e => exact ⟨.taskFailure task.partition e, by simp [hr]⟩

theorem mapM_success? {ts : List (PartitionTask α × Progress)}
    (h : ∀ t ∈ ts, success? t ≠ none) : ∃ rs, ts.mapM success? = some rs := by
  induction ts with
  | nil => exact ⟨[], rfl⟩
  | cons t ts ih =>
    obtain ⟨a, ha⟩ := Option.ne_none_iff_exists'.1 (h t List.mem_cons_self)
    obtain ⟨rs, hrs⟩ := ih fun u hu => h u (List.mem_cons_of_mem _ hu)
    exact ⟨a :: rs, by simp [List.mapM_cons, ha, hrs]⟩

theorem exists_take_takeWhile {β : Type} {p : β → Bool} {l : List β} {b : β} (hb : b ∈ l)
    (h : ¬ p b) : ∃ c ∈ l.take ((l.takeWhile p).length + 1), ¬ p c := by
  induction l with
  | nil => cases hb
  | cons a l ih =>
    by_cases ha : p a
    · have later : b ∈ l := by
        rcases List.mem_cons.1 hb with rfl | later
        · exact absurd ha h
        · exact later
      obtain ⟨c, hc, not⟩ := ih later
      refine ⟨c, ?_, not⟩
      rw [List.takeWhile_cons_of_pos ha, List.length_cons, List.take_succ_cons]
      exact List.mem_cons_of_mem a hc
    · exact ⟨a, by simp, ha⟩

/-- Of the tasks without a result at least one is observed. -/
theorem exists_observed {ts : List (PartitionTask α × Progress)} (ht : t ∈ ts)
    (h : success? t = none) : ∃ u ∈ observed ts, success? u = none := by
  unfold observed
  split
  · exact ⟨t, ht, h⟩
  · obtain ⟨u, hu, lacks⟩ := exists_take_takeWhile (p := (success? · |>.isSome)) ht (by simp [h])
    exact ⟨u, hu, by simpa using lacks⟩

/-- Tasks that have all finished settle the query. -/
theorem verdict?_of_finished {ts : List (PartitionTask α × Progress)}
    (h : ∀ t ∈ ts, t.2 = .finished) : ∃ r, verdict? ts = some r := by
  unfold verdict?
  cases seen : (observed ts).findSome? failure? with
  | some e => exact ⟨.error e, rfl⟩
  | none =>
    have all : ∀ t ∈ ts, success? t ≠ none := by
      intro t ht lacks
      obtain ⟨u, hu, lacks⟩ := exists_observed ht lacks
      obtain ⟨e, failed⟩ := failure?_of_success? (h u (observed_subset ts hu)) lacks
      cases failed.symm.trans (List.findSome?_eq_none_iff.1 seen u hu)
    obtain ⟨rs, hrs⟩ := mapM_success? all
    exact ⟨.ok rs, by simp [hrs]⟩

/-- As long as nothing has ended the wait, the turn of some task changes something. -/
theorem UnderWay.exists_turn (h : f.UnderWay) (waits : f.closing = none) :
    ∃ e, Turn e ∧ f.step e ≠ f := by
  refine Classical.byContradiction fun none => ?_
  have stuck : ∀ e, Turn e → f.step e = f := fun e he =>
    Classical.byContradiction fun changed => none ⟨e, he, changed⟩
  have turn {e : Event} (he : Turn e) : ¬ (f.step e).allTurnsLeft < f.allTurnsLeft := by
    rw [stuck e he]
    exact Nat.lt_irrefl _
  -- A running task could go on.
  have still : ∀ t ∈ f.tasks, ∀ n, t.2 ≠ .running n := by
    rintro ⟨task, p⟩ ht n rfl
    obtain ⟨i, hi⟩ := List.mem_iff_getElem?.1 ht
    refine turn (.run i) ?_
    rw [step, allTurnsLeft_settle, runTask, hi]
    simp only [waits, Option.isSome_none, Bool.false_eq_true, if_false]
    split <;> exact allTurnsLeft_setProgress hi (by simp only [turnsLeft]; omega)
  -- So all slots are free, and a task that waits could start.
  have started : ∀ t ∈ f.tasks, t.2 ≠ .queued := by
    rintro ⟨task, p⟩ ht rfl
    obtain ⟨i, hi⟩ := List.mem_iff_getElem?.1 ht
    have idle : f.runningCount = 0 := by
      refine List.countP_eq_zero.2 fun u hu => ?_
      split
      · next n running => exact absurd running (still u hu n)
      · exact Bool.false_ne_true
    refine turn (.start i) ?_
    rw [step, allTurnsLeft_settle, startTask, hi]
    simp only [waits, idle, h.room, Option.isSome_none, Bool.false_eq_true, if_false, if_true]
    exact allTurnsLeft_setProgress hi (by simp [turnsLeft])
  have finished : ∀ t ∈ f.tasks, t.2 = .finished := by
    intro t ht
    cases hp : t.2 with
    | queued => exact absurd hp (started t ht)
    | running n => exact absurd hp (still t ht n)
    | finished => rfl
    | cancelled => exact absurd hp (h.kept waits t ht)
  obtain ⟨r, verdict⟩ := verdict?_of_finished finished
  have closed : f.settle.closing = some (.returned r) := by
    simp [FanOut.settle, waits, verdict]
  rw [h.settled, waits] at closed
  cases closed

/-! ## Endless schedules -/

/-- Where the first `n` events of an endless schedule lead. -/
def stateAt (f : FanOut α) (es : Nat → Event) (n : Nat) : FanOut α :=
  f.runAll ((List.range n).map es)

theorem stateAt_succ (f : FanOut α) (es : Nat → Event) (n : Nat) :
    f.stateAt es (n + 1) = (f.stateAt es n).step (es n) := by
  simp [stateAt, runAll, List.range_succ]

/-- A schedule of a pool that works: it holds turns of tasks only, and whenever the turn of some task
would change something, one that does comes up. -/
structure Diligent (f : FanOut α) (es : Nat → Event) : Prop where
  turns : ∀ n, Turn (es n)
  works : ∀ n, (∃ e, Turn e ∧ (f.stateAt es n).step e ≠ f.stateAt es n) →
    ∃ m ≥ n, f.stateAt es (m + 1) ≠ f.stateAt es m

variable {es : Nat → Event}

theorem UnderWay.stateAt (h : f.UnderWay) (turns : ∀ n, Turn (es n)) (n : Nat) :
    (f.stateAt es n).UnderWay := by
  induction n with
  | zero => exact h
  | succ n ih =>
    rw [stateAt_succ]
    exact ih.turn (turns n)

theorem UnderWay.allTurnsLeft_stateAt_le (h : f.UnderWay) (turns : ∀ n, Turn (es n)) {m n : Nat}
    (later : n ≤ m) : (f.stateAt es m).allTurnsLeft ≤ (f.stateAt es n).allTurnsLeft := by
  induction later with
  | refl => exact Nat.le_refl _
  | @step m _ ih =>
    rw [Nat.succ_eq_add_one, stateAt_succ]
    rcases (h.stateAt turns m).turn_cases (turns m) with same | less
    · rwa [same]
    · exact Nat.le_trans (Nat.le_of_lt less) ih

theorem UnderWay.exists_closing (h : f.UnderWay) (diligent : f.Diligent es) :
    ∃ n, (f.stateAt es n).closing ≠ none := by
  -- By induction on what is left to do after `n` turns.
  suffices ends : ∀ k n, (f.stateAt es n).allTurnsLeft = k →
      ∃ n, (f.stateAt es n).closing ≠ none from ends _ 0 rfl
  intro k
  induction k using Nat.strongRecOn with
  | ind k ih =>
    rintro n rfl
    by_cases waits : (f.stateAt es n).closing = none
    · obtain ⟨m, later, changed⟩ := diligent.works n
        ((h.stateAt diligent.turns n).exists_turn waits)
      rw [stateAt_succ] at changed
      have less := ((h.stateAt diligent.turns m).turn_cases (diligent.turns m)).resolve_left changed
      refine ih _ (Nat.lt_of_lt_of_le ?_ (h.allTurnsLeft_stateAt_le diligent.turns later)) (m + 1) rfl
      rwa [stateAt_succ]
    · exact ⟨n, waits⟩

/-- Turn by turn the wait for the tasks comes to its end, and only a task can make it fail. -/
theorem UnderWay.exists_returned (h : f.UnderWay) (diligent : f.Diligent es) :
    ∃ n r, (f.stateAt es n).closing = some (.returned r) ∧
      ∀ e, r = .error e → Fails ((f.stateAt es n).tasks.map (·.1)) e := by
  obtain ⟨n, ended⟩ := h.exists_closing diligent
  obtain ⟨c, closed⟩ := Option.ne_none_iff_exists'.1 ended
  obtain ⟨r, rfl, byTasks⟩ := (h.stateAt diligent.turns n).byTasks c closed
  exact ⟨n, r, closed, byTasks⟩

/-! ## Round robin -/

/-- Tasks take turns: each may start, then go on, then the next one's turn comes. -/
def roundRobin (count n : Nat) : Event :=
  if n % 2 = 0 then .start (n / 2 % count) else .run (n / 2 % count)

theorem turn_roundRobin (count n : Nat) : Turn (roundRobin count n) := by
  unfold roundRobin
  split
  · exact .start _
  · exact .run _

theorem roundRobin_start {count i : Nat} (hi : i < count) (n : Nat) :
    roundRobin count (2 * (n * count + i)) = .start i := by
  simp [roundRobin, Nat.mod_eq_of_lt hi]

theorem roundRobin_run {count i : Nat} (hi : i < count) (n : Nat) :
    roundRobin count (2 * (n * count + i) + 1) = .run i := by
  have half : (2 * (n * count + i) + 1) / 2 = n * count + i := by omega
  simp [roundRobin, half, Nat.mod_eq_of_lt hi]

/-- Turns that change something are turns of a task that exists, and such come round again. -/
theorem exists_roundRobin {count : Nat} (h : f.UnderWay) (size : f.tasks.length = count)
    (he : Turn e) (changes : f.step e ≠ f) (n : Nat) : ∃ m ≥ n, roundRobin count m = e := by
  have inRange {i : Nat} (changed : f.tasks[i]? ≠ none) : i < count := by
    rw [← size]
    exact Nat.lt_of_not_le fun out => changed (List.getElem?_eq_none out)
  have later {i : Nat} (hi : i < count) : n ≤ 2 * (n * count + i) := by
    have := Nat.le_mul_of_pos_right n (Nat.zero_lt_of_lt hi)
    omega
  cases he with
  | start i =>
    have hi : i < count := inRange fun none => changes (by simp [step, startTask, none, h.settled])
    exact ⟨_, later hi, roundRobin_start hi n⟩
  | run i =>
    have hi : i < count := inRange fun none => changes (by simp [step, runTask, none, h.settled])
    exact ⟨_, Nat.le_succ_of_le (later hi), roundRobin_run hi n⟩

/-- A pool that lets the tasks take turns works. -/
theorem diligent_roundRobin (capacity : Nat) (timeout : Duration) (ts : List (PartitionTask α)) :
    (new capacity timeout ts).Diligent (roundRobin ts.length) := by
  refine ⟨turn_roundRobin ts.length, fun n ⟨e, he, changes⟩ => ?_⟩
  have start : (new capacity timeout ts).UnderWay := underWay_new capacity timeout ts
  have size : ((new capacity timeout ts).stateAt (roundRobin ts.length) n).tasks.length =
      ts.length := by
    have tasks := (sound_runAll (sound_new capacity timeout ts)
      ((List.range n).map (roundRobin ts.length))).tasks
    simpa [stateAt] using congrArg List.length tasks
  obtain ⟨m, later, hm⟩ := exists_roundRobin (start.stateAt (turn_roundRobin ts.length) n) size he
    changes n
  -- If nothing changed from `n` on, that turn would come up in the same state.
  refine Classical.byContradiction fun none => ?_
  have still : ∀ k ≥ n, (new capacity timeout ts).stateAt (roundRobin ts.length) k =
      (new capacity timeout ts).stateAt (roundRobin ts.length) n := by
    intro k hk
    induction hk with
    | refl => rfl
    | @step k hk ih =>
      refine Eq.trans ?_ ih
      exact Classical.byContradiction fun changed => none ⟨k, hk, changed⟩
  refine none ⟨m, later, ?_⟩
  rw [stateAt_succ, still m later, hm]
  exact changes

end DataGrid.FanOut
