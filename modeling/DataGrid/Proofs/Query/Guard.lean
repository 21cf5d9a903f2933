import DataGrid.Proofs.Pool.Accounting
import DataGrid.Proofs.Query.FanOut
import DataGrid.Query.Pooled

/-!
# A query on a pool

What holds of one query at any time, and what its own steps and those of others leave of it: its
tasks are called off only once it is abandoned, each is then or the guard still has to, and results
that it has are those of its partitions (`PooledQuery.Sound`).
-/

namespace DataGrid

/-! ## Calls to the pool -/

namespace Pool

variable {p p' p'' : Pool} {i k : Nat} {j : PoolJob}

/-- What becomes of the jobs of a pool; those for which `Called` holds may be called off. -/
structure Goes (Called : Nat → Prop) (p p' : Pool) : Prop where
  later : ∀ i j, p.jobs[i]? = some j → ∃ j', p'.jobs[i]? = some j' ∧ j.Later j' ∧
    (¬ Called i → j'.isCalledOff = j.isCalledOff)
  ended : ∀ i, p.stage? i = some .ended → p'.stage? i = some .ended

variable {Called : Nat → Prop}

theorem Goes.refl (p : Pool) : Goes Called p p :=
  ⟨fun _ j known => ⟨j, known, ⟨rfl, id, id⟩, fun _ => rfl⟩, fun _ => id⟩

theorem Goes.trans (h : Goes Called p p') (h' : Goes Called p' p'') : Goes Called p p'' := by
  refine ⟨fun i j known => ?_, fun i => h'.ended i ∘ h.ended i⟩
  obtain ⟨j', known', later, kept⟩ := h.later i j known
  obtain ⟨j'', known'', later', kept'⟩ := h'.later i j' known'
  refine ⟨j'', known'', ?_, fun other => (kept' other).trans (kept other)⟩
  exact ⟨later'.blocking.trans later.blocking, later'.fired ∘ later.fired,
    later'.aborted ∘ later.aborted⟩

/-- Only calls for a job call it off. -/
theorem goes_step (p : Pool) (e : Event) :
    Goes (fun i => e = .fire i ∨ e = .abort i) p (p.step e) := by
  refine ⟨fun i j known => ?_, fun i => (p.moves_step e).ended⟩
  obtain ⟨j', known', blocking, fired, aborted⟩ := flags_step known e
  refine ⟨j', known', ⟨blocking, by simp_all, by simp_all⟩, fun other => ?_⟩
  rw [not_or] at other
  simp [PoolJob.isCalledOff, fired, aborted, other]

theorem Goes.mono {Called' : Nat → Prop} (h : Goes Called p p') (sub : ∀ i, Called i → Called' i) :
    Goes Called' p p' := by
  refine ⟨fun i j known => ?_, h.ended⟩
  obtain ⟨j', known', later, kept⟩ := h.later i j known
  exact ⟨j', known', later, fun other => kept (other ∘ sub i)⟩

theorem goes_quiet (Called : Nat → Prop) (p : Pool) {e : Event}
    (quiet : ∀ i, e ≠ .fire i ∧ e ≠ .abort i) : Goes Called p (p.step e) :=
  (goes_step p e).mono fun i call => absurd call (not_or.2 (quiet i))

end Pool

/-! ## Tasks -/

/-- The task of a partition as a query without a pool has it. -/
def QueryRequest.task (r : QueryRequest) (p : Nat) : PartitionTask Yield :=
  match r.purpose with
  | .collect =>
    let t := r.executor.scanTask r.collection r.matching p
    ⟨p, t.units, t.result.map .entries⟩
  | .fold fresh =>
    let t := r.executor.foldTask r.collection r.matching fresh p
    ⟨p, t.units, t.result.map .folded⟩

/-- The entries of a partition have been folded into `a`, but for the `rest`. -/
def QueryRequest.Folds (r : QueryRequest) (p : Nat) (a : Aggregator) (rest : List Entry) : Prop :=
  ∃ fresh before, r.purpose = .fold fresh ∧
    r.executor.scanner.scan r.collection r.matching p = .ok (before ++ rest) ∧
      fresh.accumulateAll before = .ok a

namespace Activity

variable {r : QueryRequest} {p : Nat} {fired : Bool} {a a' : Activity}

/-- What a task has come to is what the query makes of its partition. -/
def Honest (r : QueryRequest) (p : Nat) : Activity → Prop
  | .new | .cleared | .scanning => True
  | .between a rest => r.Folds p a rest
  | .admitted a e rest => r.Folds p a (e :: rest)
  | .returned x | .reported x => ∀ y, x = .ok y → (r.task p).result = .ok y

theorem honest_error (r : QueryRequest) (p : Nat) (e : GridError) :
    (Activity.returned (.error e)).Honest r p := by
  intro y ok
  cases ok

theorem Honest.work (h : a.Honest r p) (fired : Bool) : (a.work r p fired).Honest r p := by
  cases a with
  | new =>
    cases fired with
    | true => exact honest_error r p _
    | false => trivial
  | cleared => trivial
  | scanning =>
    unfold Activity.work
    dsimp only
    split
    · exact honest_error r p _
    · next es scanned =>
      split
      · next collect =>
        intro y e
        cases e
        simp [QueryRequest.task, collect, Executor.scanTask, scanned, Except.map]
      · next fresh fold => exact ⟨fresh, [], fold, scanned, rfl⟩
  | between a rest =>
    cases rest with
    | nil =>
      obtain ⟨fresh, before, fold, scanned, folded⟩ := h
      intro y e
      cases e
      rw [List.append_nil] at scanned
      simp [QueryRequest.task, fold, Executor.foldTask, scanned, folded, Except.map]
    | cons e rest =>
      cases fired with
      | true => exact honest_error r p _
      | false => exact h
  | admitted a e rest =>
    obtain ⟨fresh, before, fold, scanned, folded⟩ := h
    unfold Activity.work
    dsimp only
    split
    · exact honest_error r p _
    · next b added =>
      refine ⟨fresh, before ++ [e], fold, by simpa using scanned, ?_⟩
      have one : [e].foldlM Aggregator.accumulate a = a.accumulate e := by simp
      rw [Aggregator.accumulateAll] at folded
      rw [Aggregator.accumulateAll, List.foldlM_append, folded]
      exact one.trans added
  | returned | reported => exact h

/-- Whether a task has returned, so that its job is over. -/
def isOver : Activity → Bool
  | .returned _ | .reported _ => true
  | _ => false

theorem work_eq_reported {x : Except GridError Yield} (h : a.work r p fired = .reported x) :
    a = .reported x := by
  unfold Activity.work at h
  split at h
  all_goals grind

/-- A task stays as it is, works on, or reports what it has returned. -/
inductive Next (r : QueryRequest) (p : Nat) (fired : Bool) : Activity → Activity → Prop
  | same {a : Activity} : Next r p fired a a
  | worked {a : Activity} : Next r p fired a (a.work r p fired)
  | reported {x : Except GridError Yield} : Next r p fired (.returned x) (.reported x)

def isCleared : Activity → Bool
  | .cleared => true
  | _ => false

def isScanning : Activity → Bool
  | .scanning => true
  | _ => false

def isAdmitted : Activity → Bool
  | .admitted .. => true
  | _ => false

/-- Behind a token that has fired, no scan and no entry is let through. -/
theorem Next.halts (h : Next r p true a a') :
    (a'.isCleared = true → a.isCleared = true) ∧
      (a'.isAdmitted = true → a.isAdmitted = true) := by
  cases h with
  | same => exact ⟨id, id⟩
  | reported => exact ⟨nofun, nofun⟩
  | worked =>
    unfold Activity.work
    split
    all_goals grind [isCleared, isAdmitted]

/-- A task that scans was let through for that. -/
theorem Next.cleared_of_scanning (h : Next r p fired a a') (scans : a'.isScanning = true) :
    a.isScanning = true ∨ a.isCleared = true := by
  cases h with
  | same => exact .inl scans
  | reported => cases scans
  | worked =>
    unfold Activity.work at scans
    split at scans
    all_goals grind [isCleared, isScanning]

end Activity

/-! ## One query -/

def GuardCall.event : GuardCall → Pool.Event
  | .fire job => .fire job
  | .abort job => .abort job

namespace PooledQuery

variable {p p' : Pool} {q : PooledQuery} {i : Nat} {t : QueryTask} {c : Closing Yield}

/-- The wait has ended otherwise than with all results. -/
def Abandoned (q : PooledQuery) : Prop :=
  ∃ c, q.closing = some c ∧ ∀ rs, c ≠ .returned (.ok rs)

instance (q : PooledQuery) : Decidable q.Abandoned :=
  match h : q.closing with
  | none => isFalse fun ⟨_, closed, _⟩ => nomatch h.symm.trans closed
  | some (.returned (.ok rs)) =>
    isFalse fun ⟨_, closed, bad⟩ => bad rs (Option.some.inj (closed.symm.trans h))
  | some (.returned (.error _)) => isTrue ⟨_, h, nofun⟩
  | some .dropped => isTrue ⟨_, h, nofun⟩

/-- The jobs of the tasks. -/
def Owns (q : PooledQuery) (i : Nat) : Prop := ∃ t ∈ q.tasks, t.job = i

/-- What holds of a query at any time. Its tasks are called off only if it is abandoned; then each
is, or the guard still has to. -/
structure Sound (p : Pool) (q : PooledQuery) : Prop where
  known : ∀ t ∈ q.tasks, ∃ j, p.jobs[t.job]? = some j
  own : ∀ c ∈ q.calls, ∃ i, q.Owns i ∧ (c = .fire i ∨ c = .abort i)
  alive : ¬ q.Abandoned → q.calls = [] ∧
    ∀ t ∈ q.tasks, ∀ j, p.jobs[t.job]? = some j → j.isCalledOff = false
  guarded : q.Abandoned → ∀ t ∈ q.tasks,
    .fire t.job ∈ q.calls ∨ ∀ j, p.jobs[t.job]? = some j → j.fired = true
  ended : ∀ t ∈ q.tasks, t.activity.isOver = true → p.stage? t.job = some .ended
  honest : ∀ t ∈ q.tasks, t.activity.Honest q.request t.partition
  whole : ¬ q.Abandoned → q.tasks.map (·.partition) = q.request.partitions
  answered : ∀ rs, q.closing = some (.returned (.ok rs)) →
    q.tasks.map (·.activity) = rs.map fun y => .reported (.ok y)

/-- While other queries are called off, a query stays as it is. -/
theorem Sound.goes (h : q.Sound p) {Called : Nat → Prop} (goes : Pool.Goes Called p p')
    (other : ∀ i, q.Owns i → ¬ Called i) : q.Sound p' where
  known t ht := by
    obtain ⟨j, known⟩ := h.known t ht
    obtain ⟨j', known', -⟩ := goes.later _ _ known
    exact ⟨j', known'⟩
  own := h.own
  alive kept := by
    obtain ⟨none, on⟩ := h.alive kept
    refine ⟨none, fun t ht j' known' => ?_⟩
    obtain ⟨j, known⟩ := h.known t ht
    obtain ⟨j'', known'', -, same⟩ := goes.later _ _ known
    obtain rfl := Option.some.inj (known''.symm.trans known')
    rw [same (other _ ⟨t, ht, rfl⟩)]
    exact on t ht j known
  guarded off t ht := by
    refine (h.guarded off t ht).imp_right fun fired j' known' => ?_
    obtain ⟨j, known⟩ := h.known t ht
    obtain ⟨j'', known'', later, -⟩ := goes.later _ _ known
    obtain rfl := Option.some.inj (known''.symm.trans known')
    exact later.fired (fired j known)
  ended t ht done := goes.ended _ (h.ended t ht done)
  honest := h.honest
  whole := h.whole
  answered := h.answered

theorem mem_setActivity {a : Activity} {u : QueryTask} (h : u ∈ (q.setActivity i a).tasks) :
    ∃ t ∈ q.tasks, u.job = t.job ∧ u.partition = t.partition ∧
      (u = t ∨ q.tasks[i]? = some t ∧ u.activity = a) := by
  obtain ⟨n, hn, rfl⟩ := List.mem_iff_getElem.1 h
  simp only [setActivity, List.length_modify] at hn
  simp only [setActivity, List.getElem_modify]
  refine ⟨q.tasks[n], List.getElem_mem hn, ?_⟩
  split
  · next here => exact ⟨rfl, rfl, .inr ⟨by rw [here, List.getElem?_eq_getElem hn], rfl⟩⟩
  · exact ⟨rfl, rfl, .inl rfl⟩

theorem map_setActivity {β : Type} {f : QueryTask → β}
    (same : ∀ (t : QueryTask) (a : Activity), f { t with activity := a } = f t) (q : PooledQuery)
    (i : Nat) (a : Activity) : (q.setActivity i a).tasks.map f = q.tasks.map f :=
  map_modify_of_keeps (fun t => same t a) q.tasks i

/-- A task goes on, unless its result has been given to the wait. -/
theorem Sound.setActivity (h : q.Sound p) {a : Activity} (known : q.tasks[i]? = some t)
    (open' : ∀ r, t.activity ≠ .reported r)
    (ended : a.isOver = true → p.stage? t.job = some .ended)
    (honest : a.Honest q.request t.partition) : (q.setActivity i a).Sound p where
  known u hu := by
    obtain ⟨v, hv, job, -⟩ := mem_setActivity hu
    exact job ▸ h.known v hv
  own c hc := by
    obtain ⟨n, ⟨v, hv, job⟩, call⟩ := h.own c hc
    have jobs : n ∈ q.tasks.map (·.job) := List.mem_map.2 ⟨v, hv, job⟩
    rw [← map_setActivity (fun _ _ => rfl) q i a] at jobs
    exact ⟨n, List.mem_map.1 jobs, call⟩
  alive kept := by
    refine ⟨(h.alive kept).1, fun u hu j => ?_⟩
    obtain ⟨v, hv, job, -⟩ := mem_setActivity hu
    exact job ▸ (h.alive kept).2 v hv j
  guarded off u hu := by
    obtain ⟨v, hv, job, -⟩ := mem_setActivity hu
    exact job ▸ h.guarded off v hv
  ended u hu done := by
    obtain ⟨v, hv, job, -, rfl | ⟨here, new⟩⟩ := mem_setActivity hu
    · exact h.ended u hv done
    · obtain rfl := Option.some.inj (known.symm.trans here)
      exact job ▸ ended (new ▸ done)
  honest u hu := by
    obtain ⟨v, hv, -, partition, rfl | ⟨here, new⟩⟩ := mem_setActivity hu
    · exact h.honest u hv
    · obtain rfl := Option.some.inj (known.symm.trans here)
      rw [new, partition]
      exact honest
  whole kept := (map_setActivity (fun _ _ => rfl) q i a).trans (h.whole kept)
  answered rs closed := by
    have all := h.answered rs closed
    have mem : t.activity ∈ q.tasks.map (·.activity) :=
      List.mem_map_of_mem (List.mem_of_getElem? known)
    rw [all] at mem
    obtain ⟨y, -, reported⟩ := List.mem_map.1 mem
    exact absurd reported.symm (open' _)

/-- The tasks of a wait that ends with results have given them to it. -/
theorem activity_of_success {ts : List QueryTask} {rs : List Yield}
    (h : (ts.map seen).mapM FanOut.success? = some rs) :
    ts.map (·.activity) = rs.map fun y => .reported (.ok y) := by
  induction ts generalizing rs with
  | nil =>
    cases h
    rfl
  | cons t ts ih =>
    simp only [List.map_cons, List.mapM_cons, Option.bind_eq_bind, Option.bind_eq_some_iff] at h
    obtain ⟨y, hy, ys, hys, e⟩ := h
    cases e
    rw [List.map_cons, List.map_cons, ih hys]
    congr 1
    unfold seen at hy
    split at hy
    · next r reported =>
      cases r with
      | error e => cases hy
      | ok z =>
        cases hy
        exact reported
    · cases hy

theorem activity_of_verdict {rs : List Yield}
    (h : FanOut.verdict? (q.tasks.map seen) = some (.ok rs)) :
    q.tasks.map (·.activity) = rs.map fun y => .reported (.ok y) := by
  unfold FanOut.verdict? at h
  split at h
  · cases h
  · obtain ⟨ys, success, e⟩ := Option.map_eq_some_iff.1 h
    cases e
    exact activity_of_success success

theorem results_of_reported {r : QueryRequest} {ts : List QueryTask} {rs : List Yield}
    (reported : ts.map (·.activity) = rs.map fun y => .reported (.ok y))
    (honest : ∀ t ∈ ts, t.activity.Honest r t.partition) :
    ts.map (fun t => (r.task t.partition).result) = rs.map Except.ok := by
  induction ts generalizing rs with
  | nil =>
    cases rs with
    | nil => rfl
    | cons => cases reported
  | cons t ts ih =>
    cases rs with
    | nil => cases reported
    | cons y rs =>
      simp only [List.map_cons, List.cons.injEq] at reported ⊢
      refine ⟨?_, ih reported.2 fun u hu => honest u (List.mem_cons_of_mem _ hu)⟩
      have own := honest t List.mem_cons_self
      rw [reported.1] at own
      exact own y rfl

theorem close_of_closing (h : q.closing = some c) (c' : Closing Yield) : q.close c' = q := by
  simp [close, h]

/-- A wait ends with results that are all there, or the guard is to call all tasks off. -/
theorem Sound.close (h : q.Sound p)
    (all : ∀ rs, c = .returned (.ok rs) →
      q.tasks.map (·.activity) = rs.map fun y => .reported (.ok y)) :
    (q.close c).Sound p := by
  cases hc : q.closing with
  | some c' => rwa [close_of_closing hc]
  | none =>
    have waits : ¬ q.Abandoned := fun ⟨c', closed, _⟩ => by simp [hc] at closed
    obtain ⟨none, on⟩ := h.alive waits
    by_cases well : ∃ rs, c = .returned (.ok rs)
    · obtain ⟨rs, rfl⟩ := well
      have closed : q.close (.returned (.ok rs)) =
          { q with closing := some (.returned (.ok rs)) } := by simp [PooledQuery.close, hc]
      rw [closed]
      refine ⟨h.known, h.own, fun _ => ⟨none, on⟩, fun ⟨c', e, bad⟩ => ?_, h.ended, h.honest,
        fun _ => h.whole waits, fun rs' e => ?_⟩
      · exact absurd (Option.some.inj e).symm (bad rs)
      · cases e
        exact all rs rfl
    · have closed : q.close c = { q with closing := some c, calls := q.allCalls } := by
        unfold PooledQuery.close
        rw [hc]
        split
        · next e => cases e
        · exact absurd ⟨_, rfl⟩ well
        · rfl
      rw [closed]
      refine ⟨h.known, fun call hcall => ?_, fun kept => ?_, fun _ t ht => .inl ?_, h.ended,
        h.honest, fun kept => ?_, fun rs e => ?_⟩
      · obtain ⟨t, ht, mem⟩ := List.mem_flatMap.1 hcall
        refine ⟨t.job, ⟨t, ht, rfl⟩, ?_⟩
        simpa using mem
      · exact absurd ⟨c, rfl, fun rs e => well ⟨rs, e⟩⟩ kept
      · exact List.mem_flatMap.2 ⟨t, ht, by simp⟩
      · exact absurd ⟨c, rfl, fun rs e => well ⟨rs, e⟩⟩ kept
      · exact absurd ⟨rs, Option.some.inj e⟩ well

theorem Sound.settle (h : q.Sound p) : q.settle.Sound p := by
  unfold PooledQuery.settle
  split
  · next r verdict =>
    refine h.close fun rs e => ?_
    cases e
    exact activity_of_verdict verdict
  · exact h

/-- The guard has made one of its calls. -/
theorem Sound.called {call : GuardCall} {rest : List GuardCall} (h : q.Sound p)
    (next : q.calls = call :: rest) :
    ({ q with calls := rest } : PooledQuery).Sound (p.step call.event) := by
  have off : q.Abandoned := by
    by_contra kept
    simp [(h.alive kept).1] at next
  have goes := p.goes_step call.event
  refine ⟨fun t ht => ?_, fun c hc => h.own c (by simp [next, hc]), fun kept => absurd off kept,
    fun _ t ht => ?_, fun t ht done => goes.ended _ (h.ended t ht done), h.honest,
    fun kept => absurd off kept, fun rs e => ?_⟩
  · obtain ⟨j, known⟩ := h.known t ht
    obtain ⟨j', known', -⟩ := goes.later _ _ known
    exact ⟨j', known'⟩
  · obtain ⟨j, known⟩ := h.known t ht
    obtain ⟨j', known', -, fired, -⟩ := Pool.flags_step known call.event
    have later (on : j.fired = true ∨ call = .fire t.job) (k : PoolJob)
        (hk : (p.step call.event).jobs[t.job]? = some k) : k.fired = true := by
      obtain rfl := Option.some.inj (known'.symm.trans hk)
      rw [fired, Bool.or_eq_true, decide_eq_true_iff]
      exact on.imp_right fun e => by rw [e]; rfl
    rcases h.guarded off t ht with waiting | fired
    · rw [next, List.mem_cons] at waiting
      rcases waiting with now | waiting
      · exact .inr (later (.inr now.symm))
      · exact .inl waiting
    · exact .inr (later (.inl (fired j known)))
  · obtain ⟨c, closed, bad⟩ := off
    exact absurd (Option.some.inj (closed.symm.trans e)) (bad rs)

/-- A query goes on with the same jobs, and its tasks as `fired` shows of their tokens. -/
structure Later (fired : Nat → Bool) (q q' : PooledQuery) : Prop where
  jobs : q'.tasks.map (·.job) = q.tasks.map (·.job)
  tasks : ∀ (i : Nat) (t' : QueryTask), q'.tasks[i]? = some t' →
    ∃ t, q.tasks[i]? = some t ∧ t.activity.Next q.request t.partition (fired t.job) t'.activity

variable {fired : Nat → Bool}

theorem later_of_tasks {q' : PooledQuery} (same : q'.tasks = q.tasks) : q.Later fired q' :=
  ⟨by rw [same], fun _ t known => ⟨t, same ▸ known, .same⟩⟩

theorem tasks_close (q : PooledQuery) (c : Closing Yield) : (q.close c).tasks = q.tasks := by
  unfold PooledQuery.close
  split <;> rfl

theorem tasks_settle (q : PooledQuery) : q.settle.tasks = q.tasks := by
  unfold PooledQuery.settle
  split
  · exact tasks_close q _
  · rfl

theorem later_setActivity {a : Activity} (known : q.tasks[i]? = some t)
    (next : t.activity.Next q.request t.partition (fired t.job) a) :
    q.Later fired (q.setActivity i a) := by
  refine ⟨map_setActivity (fun _ _ => rfl) q i a, fun n t' known' => ?_⟩
  simp only [PooledQuery.setActivity, List.getElem?_modify] at known'
  obtain ⟨u, hu, e⟩ := Option.map_eq_some_iff.1 known'
  refine ⟨u, hu, ?_⟩
  by_cases here : i = n
  · subst here
    obtain rfl := Option.some.inj (known.symm.trans hu)
    rw [if_pos rfl] at e
    exact e ▸ next
  · rw [if_neg here] at e
    exact e ▸ .same

theorem Later.owns {q' : PooledQuery} (h : q.Later fired q') : q'.Owns i ↔ q.Owns i := by
  have mem (r : PooledQuery) : r.Owns i ↔ i ∈ r.tasks.map (·.job) := List.mem_map.symm
  rw [mem, mem, h.jobs]

/-- Results that were reported are those of the partitions. -/
theorem Sound.results (h : q.Sound p) {rs : List Yield}
    (closed : q.closing = some (.returned (.ok rs))) :
    FanOut.results? (q.request.partitions.map q.request.task) = some rs := by
  have kept : ¬ q.Abandoned := fun ⟨c, off, bad⟩ => bad rs (Option.some.inj (off.symm.trans closed))
  rw [FanOut.results?_eq_some_iff, ← h.whole kept, List.map_map, List.map_map]
  exact results_of_reported (h.answered rs closed) h.honest

end PooledQuery

end DataGrid
