import DataGrid.Proofs.Query.Guard

/-!
# Abandoned queries

Queries run on one pool, with the steps of their tasks, waits and guards in any order. When one has
failed, run out of time or been dropped, and its guard is through, it lets nothing more through: a
task only begins the scan, or folds the entry, that it was let through for before. The tasks of other
queries are not called off, and a query only returns results when all of its tasks have ended. Main
statement: `abandoned_starts_nothing`. A scan may begin after the end (`cleared_scan_begins`).
-/

namespace DataGrid

namespace QueryPool

variable {s s' : QueryPool} {k k' i : Nat} {q q' : PooledQuery} {t : QueryTask} {e : Event}
  {p' : Pool}

/-! ## Steps -/

/-- What a step for a query makes of the pool and of the query. -/
inductive Turns (s : QueryPool) (q : PooledQuery) : Pool → PooledQuery → Prop
  | worked {i : Nat} {t : QueryTask} {a : Activity} (task : q.tasks[i]? = some t)
      (works : s.pool.stage? t.job = some .working)
      (next : t.activity.work q.request t.partition (s.hasFired t.job) = a)
      (goesOn : ∀ r, a ≠ .returned r) :
      Turns s q s.pool (q.setActivity i a)
  | returned {i : Nat} {t : QueryTask} {r : Except GridError Yield} (task : q.tasks[i]? = some t)
      (works : s.pool.stage? t.job = some .working)
      (next : t.activity.work q.request t.partition (s.hasFired t.job) = .returned r) :
      Turns s q (s.pool.step (.complete t.job)) (q.setActivity i (.returned r))
  | reported {i : Nat} {t : QueryTask} {r : Except GridError Yield} (task : q.tasks[i]? = some t)
      (result : t.activity = .returned r) :
      Turns s q s.pool (q.setActivity i (.reported r))
  | settled : Turns s q s.pool q.settle
  | overdue (e : GridError) : Turns s q s.pool (q.settle.close (.returned (.error e)))
  | dropped : Turns s q s.pool (q.close .dropped)
  | called {c : GuardCall} {rest : List GuardCall} (next : q.calls = c :: rest) :
      Turns s q (s.pool.step c.event) { q with calls := rest }

/-- What a step comes to. -/
inductive Moves (s : QueryPool) : QueryPool → Prop
  | idle : Moves s s
  | refused (r : QueryRequest) (e : GridError) :
      Moves s { s with queries := s.queries ++ [.refused r e] }
  | asked (r : QueryRequest) :
      Moves s ⟨submitAll s.pool r.partitions, s.queries ++ [.fanned r s.pool.jobs.length]⟩
  | turned (job : Nat) : Moves s { s with pool := s.pool.step (.turn job) }
  | changed {k : Nat} {q q' : PooledQuery} {p' : Pool} (known : s.queries[k]? = some q)
      (turns : Turns s q p' q') : Moves s ⟨p', s.queries.set k q'⟩

theorem modify_of_known (known : s.queries[k]? = some q) (f : PooledQuery → PooledQuery) :
    s.queries.modify k f = s.queries.set k (f q) := by
  simp [List.modify_eq_set_getElem?, known]

/-- A step that only a query is about. -/
theorem moves_modifyQuery {f : PooledQuery → PooledQuery}
    (turns : ∀ q, s.queries[k]? = some q → Turns s q s.pool (f q)) :
    s.Moves (s.modifyQuery k f) := by
  unfold modifyQuery
  cases known : s.queries[k]? with
  | none =>
    rw [List.modify_eq_self (List.getElem?_eq_none_iff.1 known)]
    exact .idle
  | some q =>
    rw [modify_of_known known]
    exact .changed known (turns q known)

theorem task?_eq_some : s.task? k i = some (q, t) ↔
    s.queries[k]? = some q ∧ q.tasks[i]? = some t := by
  unfold task?
  grind

theorem moves_ask (s : QueryPool) (r : QueryRequest) : s.Moves (s.ask r) := by
  unfold ask
  split
  · exact .refused r _
  · exact .asked r

theorem moves_work (s : QueryPool) (k i : Nat) : s.Moves (s.work k i) := by
  unfold work
  split
  · exact .idle
  · next q t found =>
    obtain ⟨known, task⟩ := task?_eq_some.1 found
    split
    · next works =>
      dsimp only
      rw [modify_of_known known]
      split
      · next r next =>
        rw [next]
        exact .changed known (.returned task works next)
      · next goesOn => exact .changed known (.worked task works rfl goesOn)
    · exact .idle

theorem moves_report (s : QueryPool) (k i : Nat) : s.Moves (s.report k i) := by
  unfold report
  split
  · next q partition job r found =>
    obtain ⟨known, task⟩ := task?_eq_some.1 found
    split
    · exact .idle
    · refine moves_modifyQuery fun q' known' => ?_
      obtain rfl := Option.some.inj (known.symm.trans known')
      exact .reported task rfl
  · exact .idle

theorem moves_callOff (s : QueryPool) (k : Nat) : s.Moves (s.callOff k) := by
  unfold callOff
  split
  · exact .idle
  · next q known =>
    dsimp only
    rw [modify_of_known known]
    split
    · exact .idle
    · next job rest next =>
      rw [next]
      exact .changed known (.called next)
    · next job rest next =>
      rw [next]
      exact .changed known (.called next)

theorem moves_step (s : QueryPool) (e : Event) : s.Moves (s.step e) := by
  cases e with
  | ask r => exact moves_ask s r
  | turn job => exact .turned job
  | work k i => exact moves_work s k i
  | report k i => exact moves_report s k i
  | poll k => exact moves_modifyQuery fun _ _ => .settled
  | deadline k => exact moves_modifyQuery fun _ _ => .overdue _
  | drop k => exact moves_modifyQuery fun _ _ => .dropped
  | callOff k => exact moves_callOff s k

/-- Tasks go on as far as their tokens let them. -/
theorem Turns.later (h : Turns s q p' q') : q.Later s.hasFired q' := by
  cases h with
  | worked task _ next | returned task _ next =>
    exact PooledQuery.later_setActivity task (next ▸ .worked)
  | reported task result => exact PooledQuery.later_setActivity task (result ▸ .reported)
  | settled => exact PooledQuery.later_of_tasks q.tasks_settle
  | overdue => exact PooledQuery.later_of_tasks ((PooledQuery.tasks_close _ _).trans q.tasks_settle)
  | dropped => exact PooledQuery.later_of_tasks (q.tasks_close _)
  | called => exact PooledQuery.later_of_tasks rfl

/-- A query only calls its own tasks off. -/
theorem Turns.goes (h : Turns s q p' q') (sound : q.Sound s.pool) :
    Pool.Goes q.Owns s.pool p' := by
  cases h with
  | worked | reported | settled | overdue | dropped => exact .refl _
  | returned => exact Pool.goes_quiet _ _ (by simp)
  | @called c rest next =>
    obtain ⟨n, owns, call⟩ := sound.own c (by simp [next])
    refine (Pool.goes_step s.pool c.event).mono fun i hi => ?_
    rcases call with rfl | rfl <;> rcases hi with e | e <;> cases e
    all_goals exact owns

theorem Turns.sound (h : Turns s q p' q') (sound : q.Sound s.pool) : q'.Sound p' := by
  have going {i : Nat} {t : QueryTask} (task : q.tasks[i]? = some t)
      (works : s.pool.stage? t.job = some .working) (r) : t.activity ≠ .reported r := by
    intro reported
    have ended := sound.ended t (List.mem_of_getElem? task) (by rw [reported]; rfl)
    cases works.symm.trans ended
  have honest {i : Nat} {t : QueryTask} (task : q.tasks[i]? = some t) :
      t.activity.Honest q.request t.partition := sound.honest t (List.mem_of_getElem? task)
  cases h with
  | @worked i t a task works next goesOn =>
    refine sound.setActivity task (going task works) (fun ended => ?_) (next ▸ (honest task).work _)
    cases a with
    | returned r => exact absurd rfl (goesOn r)
    | reported r => exact absurd (Activity.work_eq_reported next) (going task works r)
    | new | cleared | scanning | between | admitted => cases ended
  | @returned i t r task works next =>
    have quiet := Pool.goes_quiet (fun _ => False) s.pool (e := .complete t.job) (by simp)
    have kept := sound.goes quiet fun _ _ => id
    refine kept.setActivity task (going task works) (fun _ => ?_) (next ▸ (honest task).work _)
    exact Pool.stage?_complete works
  | reported task result =>
    have ended := sound.ended _ (List.mem_of_getElem? task) (by rw [result]; rfl)
    exact sound.setActivity task (by simp [result]) (fun _ => ended) (result ▸ honest task :)
  | settled => exact sound.settle
  | overdue => exact sound.settle.close (by simp)
  | dropped => exact sound.close (by simp)
  | called next => exact sound.called next

/-! ## Runs -/

/-- What holds of the queries on a pool at any time. -/
structure Orderly (s : QueryPool) : Prop where
  sound : ∀ (k : Nat) (q : PooledQuery), s.queries[k]? = some q → q.Sound s.pool
  /-- No two queries have a job together. -/
  apart : ∀ (k k' : Nat) (q q' : PooledQuery) (i : Nat), s.queries[k]? = some q →
    s.queries[k']? = some q' → q.Owns i → q'.Owns i → k = k'

theorem orderly_ofCapacity (n : Nat) : (ofCapacity n).Orderly :=
  ⟨by simp [ofCapacity], by simp [ofCapacity]⟩

theorem jobs_submitAll (p : Pool) (ps : List Nat) :
    (submitAll p ps).jobs = p.jobs ++ List.replicate ps.length { blocking := true } := by
  induction ps generalizing p with
  | nil => simp [submitAll]
  | cons n ps ih =>
    have rest : submitAll p (n :: ps) = submitAll (p.submit true) ps := rfl
    simp [rest, ih, Pool.submit, List.replicate_succ]

theorem goes_submitAll (Called : Nat → Prop) (p : Pool) (ps : List Nat) :
    Pool.Goes Called p (submitAll p ps) := by
  induction ps generalizing p with
  | nil => exact .refl p
  | cons _ ps ih =>
    exact (Pool.goes_quiet Called p (e := .submit true) (by simp)).trans (ih (p.submit true))

theorem sound_refused (p : Pool) (r : QueryRequest) (e : GridError) :
    (PooledQuery.refused r e).Sound p := by
  have off : (PooledQuery.refused r e).Abandoned := ⟨_, rfl, by simp⟩
  refine ⟨?_, ?_, ?_, ?_, ?_, ?_, fun kept => absurd off kept, ?_⟩
  all_goals simp [PooledQuery.refused]

/-- The jobs of a new query are new. -/
theorem task_fanned {p : Pool} {r : QueryRequest}
    (h : t ∈ (PooledQuery.fanned r p.jobs.length).tasks) :
    p.jobs[t.job]? = none ∧ (submitAll p r.partitions).jobs[t.job]? = some { blocking := true } ∧
      t.activity = .new := by
  obtain ⟨⟨n, job⟩, mem, rfl⟩ := List.mem_map.1 h
  obtain ⟨low, high, -⟩ := List.mem_zipIdx mem
  rw [jobs_submitAll, List.getElem?_append_right low, List.getElem?_replicate_of_lt (by omega)]
  exact ⟨List.getElem?_eq_none low, rfl, rfl⟩

theorem sound_fanned (p : Pool) (r : QueryRequest) :
    (PooledQuery.fanned r p.jobs.length).Sound (submitAll p r.partitions) where
  known t ht := ⟨_, (task_fanned ht).2.1⟩
  own := nofun
  alive _ := by
    refine ⟨rfl, fun t ht j known => ?_⟩
    obtain rfl := Option.some.inj ((task_fanned ht).2.1.symm.trans known)
    rfl
  guarded off := by
    obtain ⟨c, closed, -⟩ := off
    cases closed
  ended t ht ended := by
    rw [(task_fanned ht).2.2] at ended
    cases ended
  honest t ht := by
    rw [(task_fanned ht).2.2]
    trivial
  whole _ := by
    rw [PooledQuery.fanned, List.map_map]
    exact List.zipIdx_map_fst p.jobs.length r.partitions
  answered := nofun

theorem Orderly.append (h : s.Orderly) (goes : Pool.Goes (fun _ => False) s.pool p')
    (sound : q.Sound p') (fresh : ∀ i, q.Owns i → s.pool.jobs[i]? = none) :
    Orderly ⟨p', s.queries ++ [q]⟩ := by
  have owned {k i : Nat} {q' : PooledQuery} (known : s.queries[k]? = some q') (owns : q'.Owns i) :
      ¬ q.Owns i := by
    obtain ⟨t, ht, rfl⟩ := owns
    obtain ⟨j, known⟩ := (h.sound k q' known).known t ht
    intro new
    cases (fresh _ new).symm.trans known
  have split {k : Nat} {q' : PooledQuery} (known : (s.queries ++ [q])[k]? = some q') :
      s.queries[k]? = some q' ∨ k = s.queries.length ∧ q' = q := by
    grind
  refine ⟨fun k q' known => ?_, fun k k' q₁ q₂ i known known' owns owns' => ?_⟩
  · rcases split known with known | ⟨-, rfl⟩
    · exact (h.sound k q' known).goes goes fun _ _ => id
    · exact sound
  · rcases split known with old | ⟨rfl, rfl⟩ <;> rcases split known' with old' | ⟨rfl, rfl⟩
    · exact h.apart k k' q₁ q₂ i old old' owns owns'
    · exact absurd owns' (owned old owns)
    · exact absurd owns (owned old' owns')
    · rfl

/-- One query goes on with jobs of its own, on a pool where it only called off those. -/
theorem Orderly.set (h : s.Orderly) (known : s.queries[k]? = some q)
    (goes : Pool.Goes q.Owns s.pool p') (sound : q'.Sound p')
    (owns : ∀ i, q'.Owns i ↔ q.Owns i) : Orderly ⟨p', s.queries.set k q'⟩ := by
  have split {n : Nat} {r : PooledQuery} (known' : (s.queries.set k q')[n]? = some r) :
      n = k ∧ r = q' ∨ n ≠ k ∧ s.queries[n]? = some r := by
    grind
  have owner {n i : Nat} {r : PooledQuery} (known' : (s.queries.set k q')[n]? = some r)
      (h : r.Owns i) : ∃ r', s.queries[n]? = some r' ∧ r'.Owns i := by
    rcases split known' with ⟨rfl, rfl⟩ | ⟨-, known'⟩
    · exact ⟨q, known, (owns i).1 h⟩
    · exact ⟨r, known', h⟩
  refine ⟨fun n r known' => ?_, fun n n' r₁ r₂ i known₁ known₂ owns₁ owns₂ => ?_⟩
  · rcases split known' with ⟨-, rfl⟩ | ⟨other, known'⟩
    · exact sound
    · refine (h.sound n r known').goes goes fun i owns owns' => ?_
      exact other (h.apart n k r q i known' known owns owns')
  · obtain ⟨r₁', known₁, owns₁⟩ := owner known₁ owns₁
    obtain ⟨r₂', known₂, owns₂⟩ := owner known₂ owns₂
    exact h.apart n n' r₁' r₂' i known₁ known₂ owns₁ owns₂

theorem Orderly.moves (h : s.Orderly) (moves : s.Moves s') : s'.Orderly := by
  cases moves with
  | idle => exact h
  | refused r e =>
    exact h.append (.refl _) (sound_refused s.pool r e)
      (by simp [PooledQuery.Owns, PooledQuery.refused])
  | asked r =>
    refine h.append (goes_submitAll _ _ _) (sound_fanned s.pool r) ?_
    rintro _ ⟨t, ht, rfl⟩
    exact (task_fanned ht).1
  | turned job =>
    have quiet := Pool.goes_quiet (fun _ => False) s.pool (e := .turn job) (by simp)
    exact ⟨fun k q known => (h.sound k q known).goes quiet fun _ _ => id, h.apart⟩
  | changed known turns =>
    have sound := h.sound _ _ known
    exact h.set known (turns.goes sound) (turns.sound sound) fun _ => turns.later.owns

theorem Moves.goes (h : s.Moves s') (orderly : s.Orderly) :
    Pool.Goes (fun _ => True) s.pool s'.pool := by
  cases h with
  | idle | refused => exact .refl _
  | asked r => exact goes_submitAll _ _ _
  | turned job => exact Pool.goes_quiet _ _ (e := .turn job) (by simp)
  | changed known turns => exact (turns.goes (orderly.sound _ _ known)).mono fun _ _ => trivial

theorem Moves.later (h : s.Moves s') (known : s.queries[k]? = some q) :
    ∃ q', s'.queries[k]? = some q' ∧ q.Later s.hasFired q' := by
  have same : q.Later s.hasFired q := PooledQuery.later_of_tasks rfl
  obtain ⟨lt, -⟩ := List.getElem?_eq_some_iff.1 known
  cases h with
  | idle | turned => exact ⟨q, known, same⟩
  | refused | asked => exact ⟨q, by rw [List.getElem?_append_left lt, known], same⟩
  | @changed n r r' p' known' turns =>
    by_cases here : n = k
    · subst here
      obtain rfl := Option.some.inj (known.symm.trans known')
      exact ⟨r', List.getElem?_set_self lt, turns.later⟩
    · exact ⟨q, by rw [List.getElem?_set_ne here, known], same⟩

/-- A query was there before, or its tasks are new. -/
theorem Moves.old_or_new (h : s.Moves s') (known' : s'.queries[k]? = some q') :
    (∃ q, s.queries[k]? = some q) ∨ ∀ t ∈ q'.tasks, t.activity = .new := by
  have old_or_last {q₁ : PooledQuery} (known : (s.queries ++ [q₁])[k]? = some q') :
      (∃ q, s.queries[k]? = some q) ∨ q' = q₁ := by
    grind
  cases h with
  | idle | turned => exact .inl ⟨q', known'⟩
  | refused r e =>
    refine (old_or_last known').imp_right ?_
    rintro rfl t ⟨⟩
  | asked r =>
    refine (old_or_last known').imp_right ?_
    rintro rfl t ht
    exact (task_fanned ht).2.2
  | @changed n r r' p' known turns =>
    obtain ⟨lt, -⟩ := List.getElem?_eq_some_iff.1 known'
    rw [List.length_set] at lt
    exact .inl ⟨_, List.getElem?_eq_getElem lt⟩

theorem Orderly.run (h : s.Orderly) (es : List Event) : (s.run es).Orderly := by
  induction es generalizing s with
  | nil => exact h
  | cons e es ih => exact ih (h.moves (moves_step s e))

/-! ## Abandoned queries -/

/-- Whether a task is at an activity that passes a test. -/
def shows (test : Activity → Bool) (k i : Nat) (s : QueryPool) : Bool :=
  (s.task? k i).any (test ·.2.activity)

/-- The scan of a task begins. -/
def beginsScan (k i : Nat) (s : QueryPool) (e : Event) : Bool :=
  !s.shows Activity.isScanning k i && (s.step e).shows Activity.isScanning k i

/-- A task folds the entry it was let through for. -/
def foldsEntry (k i : Nat) (s : QueryPool) (e : Event) : Bool :=
  s.shows Activity.isAdmitted k i && !(s.step e).shows Activity.isAdmitted k i

theorem shows_iff {test : Activity → Bool} : s.shows test k i = true ↔
    ∃ q t, s.queries[k]? = some q ∧ q.tasks[i]? = some t ∧ test t.activity = true := by
  unfold shows task?
  cases s.queries[k]? with
  | none => simp
  | some q => cases ht : q.tasks[i]? <;> simp [ht]

/-- The tokens of all tasks of a query have fired. -/
def Silenced (k : Nat) (s : QueryPool) : Prop :=
  ∃ q, s.queries[k]? = some q ∧ ∀ i, q.Owns i → s.hasFired i = true

theorem hasFired_iff : s.hasFired i = true ↔ ∃ j, s.pool.jobs[i]? = some j ∧ j.fired = true := by
  cases h : s.pool.jobs[i]? <;> simp [hasFired, h]

theorem Silenced.moves (h : Silenced k s) (orderly : s.Orderly) (moves : s.Moves s') :
    Silenced k s' := by
  obtain ⟨q, known, fired⟩ := h
  obtain ⟨q', known', later⟩ := moves.later known
  refine ⟨q', known', fun i owns => ?_⟩
  obtain ⟨j, job, on⟩ := hasFired_iff.1 (fired i (later.owns.1 owns))
  obtain ⟨j', job', kept, -⟩ := (moves.goes orderly).later i j job
  exact hasFired_iff.2 ⟨j', job', kept.fired on⟩

/-- A task of a silenced query is not at what it has not come to before. -/
theorem Silenced.shows_of_moves {test : Activity → Bool}
    (halts : ∀ {r p a a'}, Activity.Next r p true a a' → test a' = true → test a = true)
    (h : Silenced k s) (moves : s.Moves s') (after : s'.shows test k i = true) :
    s.shows test k i = true := by
  obtain ⟨q, known, fired⟩ := h
  obtain ⟨q', known', later⟩ := moves.later known
  obtain ⟨r, t', hr, task', passes⟩ := shows_iff.1 after
  obtain rfl := Option.some.inj (known'.symm.trans hr)
  obtain ⟨t, task, next⟩ := later.tasks i t' task'
  rw [fired t.job ⟨t, List.mem_of_getElem? task, rfl⟩] at next
  exact shows_iff.2 ⟨q, t, known, task, halts next passes⟩

theorem silenced_step (h : s.Orderly ∧ Silenced k s) (e : Event) :
    (s.step e).Orderly ∧ Silenced k (s.step e) :=
  ⟨h.1.moves (moves_step s e), h.2.moves h.1 (moves_step s e)⟩

/-- Only what a task of a silenced query was let through for before can happen. -/
theorem count_le_of_halts {test : Activity → Bool} {event : QueryPool → Event → Bool}
    (halts : ∀ {r p a a'}, Activity.Next r p true a a' → test a' = true → test a = true)
    (uses : ∀ s e, event s e = true →
      s.shows test k i = true ∧ ¬ (s.step e).shows test k i = true)
    (h : s.Orderly ∧ Silenced k s) (es : List Event) :
    Run.count step event s es ≤ if s.shows test k i then 1 else 0 := by
  have count : Run.count step event s es ≤ 1 ∧
      (¬ s.shows test k i = true → Run.count step event s es = 0) := by
    refine Run.count_le step (I := fun s => s.Orderly ∧ Silenced k s)
      (F := fun s => s.shows test k i = true) (fun _ e h => silenced_step h e)
      (fun s e _ => uses s e) (fun s e h idle after => ?_) h es
    exact idle (h.2.shows_of_moves halts (moves_step s e) after)
  split
  · exact count.1
  · next idle => exact Nat.le_of_eq (count.2 idle)

/-- A scan begins where its task was let through for it, and is no longer about to. -/
theorem cleared_of_beginsScan (begins : beginsScan k i s e = true) :
    s.shows Activity.isCleared k i = true ∧ ¬ (s.step e).shows Activity.isCleared k i = true := by
  rw [beginsScan, Bool.and_eq_true, Bool.not_eq_true'] at begins
  obtain ⟨idle, after⟩ := begins
  obtain ⟨q', t', known', task', scans⟩ := shows_iff.1 after
  refine ⟨?_, fun cleared => ?_⟩
  · rcases (moves_step s e).old_or_new known' with ⟨q, known⟩ | new
    · obtain ⟨q₂, known₂, later⟩ := (moves_step s e).later known
      obtain rfl := Option.some.inj (known'.symm.trans known₂)
      obtain ⟨t, task, next⟩ := later.tasks i t' task'
      refine shows_iff.2 ⟨q, t, known, task, ?_⟩
      refine (next.cleared_of_scanning scans).resolve_left fun already => ?_
      cases idle.symm.trans (shows_iff.2 ⟨q, t, known, task, already⟩)
    · rw [new t' (List.mem_of_getElem? task')] at scans
      cases scans
  · obtain ⟨q₂, t₂, known₂, task₂, cleared⟩ := shows_iff.1 cleared
    obtain rfl := Option.some.inj (known'.symm.trans known₂)
    obtain rfl := Option.some.inj (task'.symm.trans task₂)
    cases h : t'.activity <;> simp_all [Activity.isCleared, Activity.isScanning]

theorem count_beginsScan (h : s.Orderly ∧ Silenced k s) (i : Nat) (es : List Event) :
    Run.count step (beginsScan k i) s es ≤ if s.shows Activity.isCleared k i then 1 else 0 :=
  count_le_of_halts (fun next => next.halts.1) (fun _ _ => cleared_of_beginsScan) h es

theorem count_foldsEntry (h : s.Orderly ∧ Silenced k s) (i : Nat) (es : List Event) :
    Run.count step (foldsEntry k i) s es ≤ if s.shows Activity.isAdmitted k i then 1 else 0 :=
  count_le_of_halts (fun next => next.halts.2) (fun s e folds => by simpa [foldsEntry] using folds)
    h es

/-- When the guard of an abandoned query is through, all tokens have fired. -/
theorem Orderly.silenced (h : s.Orderly) (known : s.queries[k]? = some q) (off : q.Abandoned)
    (done : q.calls = []) : Silenced k s := by
  refine ⟨q, known, ?_⟩
  rintro _ ⟨t, ht, rfl⟩
  have sound := h.sound k q known
  obtain ⟨j, job⟩ := sound.known t ht
  rcases sound.guarded off t ht with waiting | fired
  · simp [done] at waiting
  · exact hasFired_iff.2 ⟨j, job, fired j job⟩

/-- At any time of any run, whatever the other queries do: when a query has failed, is out of time
or dropped, and its guard is through, a task begins a scan or folds an entry only if it was let
through for that one. A query that goes on or has its results is not called off. One that has its
results has those of all partitions, and its jobs have ended. -/
theorem abandoned_starts_nothing {capacity k : Nat} {es : List Event} {q : PooledQuery}
    (known : ((ofCapacity capacity).run es).queries[k]? = some q) :
    let s := (ofCapacity capacity).run es
    (q.Abandoned → q.calls = [] → ∀ (i : Nat) (es' : List Event),
      Run.count step (beginsScan k i) s es' ≤ (if s.shows Activity.isCleared k i then 1 else 0) ∧
        Run.count step (foldsEntry k i) s es' ≤
          if s.shows Activity.isAdmitted k i then 1 else 0) ∧
    (¬ q.Abandoned → q.tasks.map (·.partition) = q.request.partitions ∧
      ∀ t ∈ q.tasks, ∃ j, s.pool.jobs[t.job]? = some j ∧ j.isCalledOff = false) ∧
    ∀ rs, q.closing = some (.returned (.ok rs)) →
      FanOut.results? (q.request.partitions.map q.request.task) = some rs ∧
        ∀ t ∈ q.tasks, s.pool.stage? t.job = some .ended := by
  intro s
  have orderly : s.Orderly := (orderly_ofCapacity capacity).run es
  have sound := orderly.sound k q known
  refine ⟨fun off done i es' => ?_, fun kept => ⟨sound.whole kept, fun t ht => ?_⟩,
    fun rs closed => ⟨sound.results closed, fun t ht => ?_⟩⟩
  · have silenced := orderly.silenced known off done
    exact ⟨count_beginsScan ⟨orderly, silenced⟩ i es', count_foldsEntry ⟨orderly, silenced⟩ i es'⟩
  · obtain ⟨j, job⟩ := sound.known t ht
    exact ⟨j, job, (sound.alive kept).2 t ht j job⟩
  · have mem : t.activity ∈ q.tasks.map (·.activity) := List.mem_map_of_mem ht
    rw [sound.answered rs closed] at mem
    obtain ⟨y, -, reported⟩ := List.mem_map.1 mem
    exact sound.ended t ht (by rw [← reported]; rfl)

/-- One slot for a query that folds two partitions and one that collects one. The first is out of
time when it has been let through for an entry; the second then gets the slot, and its results. -/
theorem abandoned_starts_nothing_overdue :
    let x : Executor :=
      ⟨⟨2, fun _ _ _ => .ok [⟨"a", .long 1⟩, ⟨"b", .null⟩], fun _ => 1⟩, 1, ⟨3⟩⟩
    let folding : QueryRequest :=
      ⟨x, "c", fun _ => true, .fold (Catalog.fresh "count" .count none), [1, 0]⟩
    let collecting : QueryRequest := ⟨x, "c", fun _ => true, .collect, [0]⟩
    let overdue := [.ask folding, .ask collecting, .turn 0, .turn 2, .work 0 0, .work 0 0,
      .work 0 0, .work 0 0, .deadline 0, .callOff 0, .callOff 0, .callOff 0, .callOff 0]
    let rest := [.work 0 0, .work 0 0, .turn 2, .work 1 0, .work 1 0, .work 1 0, .report 1 0,
      .poll 1]
    let s := (ofCapacity 1).run overdue
    let s' := (ofCapacity 1).run (overdue ++ rest)
    (∀ (i : Nat) (es : List Event), i < 2 → Run.count step (beginsScan 0 i) s es = 0 ∧
        Run.count step (foldsEntry 0 i) s es ≤ 1) ∧
      Run.count step (foldsEntry 0 0) s rest = 1 ∧
      (∃ q, s.queries[1]? = some q ∧ q.tasks.map (·.job) = [2] ∧
        ∀ t ∈ q.tasks, ∃ j, s.pool.jobs[t.job]? = some j ∧ j.isCalledOff = false) ∧
      ∃ q, s'.queries[1]? = some q ∧ q.tasks.map (·.job) = [2] ∧
        ∀ t ∈ q.tasks, s'.pool.stage? t.job = some .ended := by
  intro x folding collecting overdue rest
  dsimp only
  have off : ∀ q ∈ ((ofCapacity 1).run overdue).queries[0]?, q.Abandoned ∧ q.calls = [] := by
    decide +kernel
  have on : ∀ q ∈ ((ofCapacity 1).run overdue).queries[1]?,
      ¬ q.Abandoned ∧ q.tasks.map (·.job) = [2] := by decide +kernel
  have done : ∀ q ∈ ((ofCapacity 1).run (overdue ++ rest)).queries[1]?,
      ¬ q.Abandoned ∧ q.closing.isSome ∧ q.tasks.map (·.job) = [2] := by decide +kernel
  have waiting : ∀ i < 2, ((ofCapacity 1).run overdue).shows Activity.isCleared 0 i = false := by
    decide +kernel
  refine ⟨fun i es hi => ?_, by decide +kernel, ?_, ?_⟩
  · obtain ⟨q, known⟩ : ∃ q, ((ofCapacity 1).run overdue).queries[0]? = some q :=
      Option.isSome_iff_exists.1 (by decide +kernel)
    obtain ⟨abandoned, calls⟩ := off q known
    obtain ⟨scans, folds⟩ := (abandoned_starts_nothing known).1 abandoned calls i es
    rw [waiting i hi] at scans
    exact ⟨Nat.le_zero.1 scans, Nat.le_trans folds (by split <;> decide)⟩
  · obtain ⟨q, known⟩ : ∃ q, ((ofCapacity 1).run overdue).queries[1]? = some q :=
      Option.isSome_iff_exists.1 (by decide +kernel)
    obtain ⟨kept, jobs⟩ := on q known
    obtain ⟨-, free⟩ := (abandoned_starts_nothing known).2.1 kept
    exact ⟨q, known, jobs, free⟩
  · obtain ⟨q, known⟩ : ∃ q, ((ofCapacity 1).run (overdue ++ rest)).queries[1]? = some q :=
      Option.isSome_iff_exists.1 (by decide +kernel)
    obtain ⟨kept, closed, jobs⟩ := done q known
    obtain ⟨c, closed⟩ := Option.isSome_iff_exists.1 closed
    obtain ⟨rs, rfl⟩ : ∃ rs, c = .returned (.ok rs) := by
      by_contra other
      exact kept ⟨c, closed, fun rs e => other ⟨rs, e⟩⟩
    obtain ⟨-, ended⟩ := (abandoned_starts_nothing known).2.2 rs closed
    exact ⟨q, known, jobs, ended⟩

/-- A task that has looked at its token before the guard called it off scans after the end. -/
theorem cleared_scan_begins :
    let x : Executor := ⟨⟨1, fun _ _ _ => .ok [⟨"a", .null⟩], fun _ => 1⟩, 1, ⟨3⟩⟩
    let collecting : QueryRequest := ⟨x, "c", fun _ => true, .collect, [0]⟩
    let s := (ofCapacity 1).run
      [.ask collecting, .turn 0, .work 0 0, .deadline 0, .callOff 0, .callOff 0]
    (∃ q, s.queries[0]? = some q ∧ q.Abandoned ∧ q.calls = []) ∧
      Run.count step (beginsScan 0 0) s [.work 0 0] = 1 := by
  intro x collecting s
  have off : ∀ q ∈ s.queries[0]?, q.Abandoned ∧ q.calls = [] := by decide +kernel
  obtain ⟨q, known⟩ : ∃ q, s.queries[0]? = some q :=
    Option.isSome_iff_exists.1 (by decide +kernel)
  exact ⟨⟨q, known, off q known⟩, by decide +kernel⟩

end QueryPool

end DataGrid
