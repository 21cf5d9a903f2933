import DataGrid.Query.FanOut
import Mathlib.Algebra.Ring.Nat

/-!
# What a fanned out query comes to

Whatever the order of its events, a query that ends in time returns the results of all of its
tasks, or fails because one has none (`Settles.toOption`). The timeline is an order in which it
does end if there is time enough for all tasks (`toOption_outcome`).
-/

namespace DataGrid.FanOut

variable {α : Type}

/-- The results of tasks, if all of them have one. -/
def results? (ts : List (PartitionTask α)) : Option (List α) := ts.mapM (·.result.toOption)

/-- The error of one of the tasks. -/
def Fails (ts : List (PartitionTask α)) (e : GridError) : Prop :=
  ∃ t ∈ ts, ∃ cause, t.result = .error cause ∧ e = .taskFailure t.partition cause

/-! ## Any order of events -/

/-- A query of the tasks `ts` with the time `d`. If it returns results, they are those of all of its
tasks; if it fails while there is time, it does with the error of one of them. -/
structure Sound (ts : List (PartitionTask α)) (d : Duration) (f : FanOut α) : Prop where
  tasks : f.tasks.map (·.1) = ts
  timeout : f.timeout = d
  results : ∀ rs, f.closing = some (.returned (.ok rs)) → results? ts = some rs
  failures : ∀ e, f.closing = some (.returned (.error e)) → e = .deadlineExceeded d ∨ Fails ts e

variable {ts : List (PartitionTask α)} {d : Duration} {f : FanOut α}

/-- Tasks that have a result each. -/
def Succeed (ts : List (PartitionTask α)) : Prop := ∀ t ∈ ts, ∃ a, t.result = .ok a

theorem results?_eq_some_iff {rs : List α} :
    results? ts = some rs ↔ ts.map (·.result) = rs.map Except.ok := by
  induction ts generalizing rs with
  | nil => cases rs <;> simp [results?]
  | cons t ts ih =>
    have tail : ts.mapM (·.result.toOption) = results? ts := rfl
    rw [results?, List.mapM_cons, tail]
    cases hr : t.result with
    | error e => cases rs <;> simp [hr, Except.toOption]
    | ok a =>
      cases rs with
      | nil => cases h : results? ts <;> simp [Except.toOption]
      | cons b rs =>
        rw [List.map_cons, List.map_cons, List.cons.injEq, ← ih, hr]
        cases h : results? ts <;> simp [Except.toOption]

theorem succeed_of_results? {rs : List α} (h : results? ts = some rs) : Succeed ts := by
  intro t ht
  have mem : t.result ∈ rs.map Except.ok :=
    results?_eq_some_iff.1 h ▸ List.mem_map_of_mem (f := PartitionTask.result) ht
  obtain ⟨a, -, ok⟩ := List.mem_map.1 mem
  exact ⟨a, ok.symm⟩

theorem Fails.results? {e : GridError} (h : Fails ts e) : results? ts = none := by
  obtain ⟨t, ht, cause, error, -⟩ := h
  cases hrs : FanOut.results? ts with
  | none => rfl
  | some rs =>
    obtain ⟨a, ok⟩ := succeed_of_results? hrs t ht
    cases error.symm.trans ok

theorem failure?_eq_none {t : PartitionTask α} {a : α} (h : t.result = .ok a) (p : Progress) :
    failure? (t, p) = none := by
  cases p <;> simp [failure?, h]

theorem observed_subset (ts : List (PartitionTask α × Progress)) : observed ts ⊆ ts := by
  unfold observed
  split
  · exact List.Subset.refl ts
  · exact List.take_subset _ _

theorem verdict?_of_succeed {ts : List (PartitionTask α × Progress)} (h : Succeed (ts.map (·.1))) :
    verdict? ts = (ts.mapM success?).map .ok := by
  have none : (observed ts).findSome? failure? = none := by
    refine List.findSome?_eq_none_iff.2 fun t ht => ?_
    obtain ⟨a, ha⟩ := h t.1 (List.mem_map_of_mem (observed_subset ts ht))
    exact failure?_eq_none ha t.2
  rw [verdict?, none]

theorem results?_of_success? {ts : List (PartitionTask α × Progress)} {rs : List α}
    (h : ts.mapM success? = some rs) : results? (ts.map (·.1)) = some rs := by
  induction ts generalizing rs with
  | nil => exact h
  | cons t ts ih =>
    obtain ⟨task, p⟩ := t
    simp only [List.mapM_cons, Option.bind_eq_bind, Option.bind_eq_some_iff] at h
    obtain ⟨a, ha, as, has, e⟩ := h
    have result : task.result.toOption = some a := by cases p <;> grind [success?]
    have rest := ih has
    simp only [results?, List.map_cons, List.mapM_cons, result] at rest ⊢
    rw [rest]
    exact e

theorem fails_of_failure? {ts : List (PartitionTask α × Progress)} {t : PartitionTask α × Progress}
    {e : GridError} (ht : t ∈ ts) (h : failure? t = some e) : Fails (ts.map (·.1)) e := by
  obtain ⟨task, p⟩ := t
  refine ⟨task, List.mem_map_of_mem ht, ?_⟩
  cases p <;> simp only [failure?, reduceCtorEq] at h
  cases hr : task.result with
  | ok a => simp [hr] at h
  | error cause => exact ⟨cause, rfl, by simpa [hr] using h.symm⟩

/-- The tasks settle a query with their results or with the error of one. -/
theorem verdict?_spec {ts : List (PartitionTask α × Progress)} {r : Except GridError (List α)}
    (h : verdict? ts = some r) :
    match r with
    | .ok rs => results? (ts.map (·.1)) = some rs
    | .error e => Fails (ts.map (·.1)) e := by
  unfold verdict? at h
  split at h
  · next e failed =>
    obtain rfl := Option.some.inj h
    obtain ⟨t, ht, failed⟩ := List.exists_of_findSome?_eq_some failed
    exact fails_of_failure? (observed_subset ts ht) failed
  · obtain ⟨rs, hrs, rfl⟩ := Option.map_eq_some_iff.1 h
    exact results?_of_success? hrs

theorem Sound.settle (h : f.Sound ts d) : f.settle.Sound ts d := by
  unfold FanOut.settle
  split
  · exact h
  · have verdict {r} (closed : (verdict? f.tasks).map Closing.returned = some (.returned r)) :
        verdict? f.tasks = some r := by
      obtain ⟨v, hv, e⟩ := Option.map_eq_some_iff.1 closed
      cases e
      exact hv
    exact ⟨h.tasks, h.timeout, fun rs closed => h.tasks ▸ verdict?_spec (verdict closed),
      fun e closed => .inr (h.tasks ▸ verdict?_spec (verdict closed))⟩

theorem setProgress_tasks (f : FanOut α) (i : Nat) (p : Progress) :
    (f.setProgress i p).tasks.map (·.1) = f.tasks.map (·.1) := by
  refine List.ext_getElem? fun j => ?_
  simp only [setProgress, List.getElem?_map, List.getElem?_modify]
  cases f.tasks[j]? <;> simp
  split <;> rfl

theorem Sound.setProgress (h : f.Sound ts d) (i : Nat) (p : Progress) :
    (f.setProgress i p).Sound ts d :=
  ⟨(setProgress_tasks f i p).trans h.tasks, h.timeout, h.results, h.failures⟩

theorem Sound.close (h : f.Sound ts d) {c : Closing α}
    (hc : ∀ r, c = .returned r → r = .error (.deadlineExceeded d)) : (f.close c).Sound ts d := by
  unfold FanOut.close
  split
  · exact h
  · refine ⟨h.tasks, h.timeout, fun rs closed => ?_, fun e closed => .inl ?_⟩
    · cases hc _ (Option.some.inj closed)
    · cases hc _ (Option.some.inj closed)
      rfl

theorem Sound.step (h : f.Sound ts d) (e : Event) : (f.step e).Sound ts d := by
  cases e with
  | start i =>
    refine Sound.settle ?_
    unfold startTask
    split
    · split
      · exact h.setProgress i _
      · split
        · exact h.setProgress i _
        · exact h
    · exact h
  | run i =>
    refine Sound.settle ?_
    unfold runTask
    split
    · split
      · exact h.setProgress i _
      · split <;> exact h.setProgress i _
    · exact h
  | deadline =>
    refine h.close fun r e => ?_
    cases e
    rw [h.timeout]
  | drop => exact h.close nofun

theorem sound_new (capacity : Nat) (timeout : Duration) (ts : List (PartitionTask α)) :
    (new capacity timeout ts).Sound ts timeout :=
  Sound.settle ⟨by simp [Function.comp_def], rfl, fun rs closed => by simp at closed,
    fun e closed => by simp at closed⟩

/-- In whatever order tasks start and work, time runs out and the caller gives up. -/
theorem sound_runAll (h : f.Sound ts d) (es : List Event) : (f.runAll es).Sound ts d := by
  induction es generalizing f with
  | nil => exact h
  | cons e es ih => exact ih (h.step e)

/-- Some order of events ends the wait for the tasks, with `r` and before the deadline. -/
def Settles (capacity : Nat) (timeout : Duration) (ts : List (PartitionTask α))
    (r : Except GridError (List α)) : Prop :=
  r ≠ .error (.deadlineExceeded timeout) ∧
    ∃ es, ((new capacity timeout ts).runAll es).closing = some (.returned r)

theorem Settles.toOption {capacity : Nat} {r : Except GridError (List α)}
    (h : Settles capacity d ts r) : r.toOption = results? ts := by
  obtain ⟨early, es, closed⟩ := h
  have sound := sound_runAll (sound_new capacity d ts) es
  cases r with
  | ok rs => exact (sound.results rs closed).symm
  | error e =>
    have failed := (sound.failures e closed).resolve_left fun late =>
      early (congrArg Except.error late)
    exact failed.results?.symm

/-! ## Who ends the wait -/

@[simp] theorem startTask_closing (f : FanOut α) (i : Nat) : (f.startTask i).closing = f.closing := by
  unfold startTask
  split
  · split
    · rfl
    · split <;> rfl
  · rfl

@[simp] theorem runTask_closing (f : FanOut α) (i : Nat) : (f.runTask i).closing = f.closing := by
  unfold runTask
  split
  · split
    · rfl
    · split <;> rfl
  · rfl

/-- What has been settled stays so. -/
theorem closing_runAll {c : Closing α} (h : f.closing = some c) (es : List Event) :
    (f.runAll es).closing = some c := by
  induction es generalizing f with
  | nil => exact h
  | cons e es ih =>
    refine ih ?_
    have settled {g : FanOut α} (hg : g.closing = some c) : g.settle.closing = some c := by
      simp [settle, hg]
    cases e with
    | start i => exact settled (by simpa using h)
    | run i => exact settled (by simpa using h)
    | deadline | drop => simp [step, close, h]

theorem settle_closing_ne_dropped (h : f.closing ≠ some .dropped) :
    f.settle.closing ≠ some .dropped := by
  unfold settle
  split
  · exact h
  · cases verdict? f.tasks <;> simp

/-- Only the caller drops a query. -/
theorem runAll_closing_ne_dropped (h : f.closing ≠ some .dropped) {es : List Event}
    (kept : .drop ∉ es) : (f.runAll es).closing ≠ some .dropped := by
  induction es generalizing f with
  | nil => exact h
  | cons e es ih =>
    rw [List.mem_cons, not_or] at kept
    obtain ⟨other, kept⟩ := kept
    refine ih ?_ kept
    cases e with
    | start i => exact settle_closing_ne_dropped (by simpa using h)
    | run i => exact settle_closing_ne_dropped (by simpa using h)
    | deadline =>
      simp only [step, close]
      split
      · exact h
      · simp
    | drop => exact absurd rfl other

theorem timeline_eq (deadline now : Nat) (waiting : List (Nat × Nat × Nat)) :
    ∃ es, timeline deadline now waiting = es ++ [.deadline] ∧ .drop ∉ es := by
  induction waiting generalizing now with
  | nil => exact ⟨[], rfl, by simp⟩
  | cons w waiting ih =>
    obtain ⟨i, time, units⟩ := w
    rw [timeline]
    split
    · exact ⟨[.start i], rfl, by simp⟩
    · obtain ⟨es, eq, kept⟩ := ih (now + time)
      refine ⟨.start i :: List.replicate (max units 1) (.run i) ++ es, ?_, ?_⟩
      · rw [eq, List.append_assoc]
      · simpa using kept

/-- The timeline comes to an end. -/
theorem exists_returned_timeline (h : f.closing ≠ some .dropped) (deadline now : Nat)
    (waiting : List (Nat × Nat × Nat)) :
    ∃ r, (f.runAll (timeline deadline now waiting)).closing = some (.returned r) := by
  obtain ⟨es, eq, kept⟩ := timeline_eq deadline now waiting
  have last : f.runAll (es ++ [.deadline]) = (f.runAll es).step .deadline := List.foldl_append
  rw [eq, last, step, close]
  cases hc : (f.runAll es).closing with
  | none => exact ⟨.error (.deadlineExceeded (f.runAll es).timeout), rfl⟩
  | some c =>
    cases c with
    | returned r => exact ⟨r, hc⟩
    | dropped => exact absurd hc (runAll_closing_ne_dropped h kept)

/-- The outcome is what some order of events comes to. -/
theorem exists_runAll_outcome (capacity : Nat) (timeout : Duration)
    (tasks : List (PartitionTask α × Nat)) :
    ∃ es, ((new capacity timeout (tasks.map (·.1))).runAll es).closing =
      some (.returned (outcome capacity timeout tasks)) := by
  unfold outcome
  dsimp only
  split
  · next r closed => exact ⟨_, closed⟩
  · next open' =>
    have undisturbed : (new capacity timeout (tasks.map (·.1))).closing ≠ some .dropped :=
      settle_closing_ne_dropped (by simp)
    obtain ⟨r, closed⟩ := exists_returned_timeline undisturbed timeout.nanoseconds 0 _
    exact absurd closed (open' r)

/-! ## One after the other -/

/-- The progress of tasks that are done in order: some have finished, one is at hand and the
others wait. -/
def inOrder (done : List (PartitionTask α)) (t : PartitionTask α) (p : Progress)
    (rest : List (PartitionTask α)) : List (PartitionTask α × Progress) :=
  done.map (·, .finished) ++ (t, p) :: rest.map (·, .queued)

theorem success?_of_unfinished {ts : List (PartitionTask α × Progress)} {t : PartitionTask α}
    {p : Progress} (ht : (t, p) ∈ ts) (hp : p ≠ .finished) : ts.mapM success? = none := by
  induction ts with
  | nil => cases ht
  | cons u ts ih =>
    rw [List.mapM_cons]
    rcases List.mem_cons.1 ht with rfl | ht
    · cases p <;> grind [success?]
    · simp [ih ht]

theorem settle_of_unfinished (h : Succeed (f.tasks.map (·.1))) {t : PartitionTask α} {p : Progress}
    (ht : (t, p) ∈ f.tasks) (hp : p ≠ .finished) : f.settle = f := by
  unfold settle
  split
  · rfl
  · next open' =>
    rw [verdict?_of_succeed h, success?_of_unfinished ht hp]
    cases f
    grind

theorem success?_of_finished (ts : List (PartitionTask α)) :
    (ts.map (·, Progress.finished)).mapM success? = results? ts := by
  induction ts with
  | nil => rfl
  | cons t ts ih =>
    simp only [results?, List.map_cons, List.mapM_cons] at ih ⊢
    rw [ih]
    rfl

theorem modify_inOrder (done : List (PartitionTask α)) (t : PartitionTask α) (p q : Progress)
    (rest : List (PartitionTask α)) :
    (inOrder done t p rest).modify done.length (fun t => (t.1, q)) = inOrder done t q rest := by
  induction done with
  | nil => rfl
  | cons d done ih => exact congrArg (_ :: ·) ih

theorem getElem?_inOrder (done : List (PartitionTask α)) (t : PartitionTask α) (p : Progress)
    (rest : List (PartitionTask α)) : (inOrder done t p rest)[done.length]? = some (t, p) := by
  simp [inOrder]

theorem map_inOrder (done : List (PartitionTask α)) (t : PartitionTask α) (p : Progress)
    (rest : List (PartitionTask α)) : (inOrder done t p rest).map (·.1) = done ++ t :: rest := by
  simp [inOrder, Function.comp_def]

section InOrder

variable {done rest : List (PartitionTask α)} {t : PartitionTask α}

theorem step_start (hf : f.tasks = inOrder done t .queued rest) (open' : f.closing = none)
    (room : 0 < f.capacity) (ok : Succeed (done ++ t :: rest)) :
    f.step (.start done.length) = { f with tasks := inOrder done t (.running t.units) rest } := by
  have idle : f.runningCount = 0 := by
    rw [runningCount, hf, List.countP_eq_zero]
    intro u hu
    simp only [inOrder, List.mem_append, List.mem_cons, List.mem_map] at hu
    rcases hu with ⟨v, -, rfl⟩ | rfl | ⟨v, -, rfl⟩ <;> simp
  have started : f.startTask done.length =
      { f with tasks := inOrder done t (.running t.units) rest } := by
    simp [startTask, hf, getElem?_inOrder, open', idle, room, setProgress, modify_inOrder]
  rw [step, started]
  refine settle_of_unfinished (t := t) (p := .running t.units) ?_ (by simp [inOrder]) (by simp)
  simpa [map_inOrder] using ok

/-- The task at hand does its last unit. -/
theorem step_last {n : Nat} (hf : f.tasks = inOrder done t (.running n) rest)
    (open' : f.closing = none) (last : n ≤ 1) :
    f.step (.run done.length) = settle { f with tasks := inOrder done t .finished rest } := by
  simp [step, runTask, hf, getElem?_inOrder, open', last, setProgress, modify_inOrder]

theorem step_unit {n : Nat} (hf : f.tasks = inOrder done t (.running (n + 1)) rest)
    (open' : f.closing = none) (more : n ≠ 0) (ok : Succeed (done ++ t :: rest)) :
    f.step (.run done.length) = { f with tasks := inOrder done t (.running n) rest } := by
  have ran : f.runTask done.length = { f with tasks := inOrder done t (.running n) rest } := by
    simp [runTask, hf, getElem?_inOrder, open', more, setProgress, modify_inOrder]
  rw [step, ran]
  refine settle_of_unfinished (t := t) (p := .running n) ?_ (by simp [inOrder]) (by simp)
  simpa [map_inOrder] using ok

/-- The task at hand does all of its units. -/
theorem runAll_units {n : Nat} (hf : f.tasks = inOrder done t (.running n) rest)
    (open' : f.closing = none) (ok : Succeed (done ++ t :: rest)) :
    f.runAll (List.replicate (max n 1) (.run done.length)) =
      settle { f with tasks := inOrder done t .finished rest } := by
  induction n generalizing f with
  | zero => exact step_last hf open' (by omega)
  | succ n ih =>
    by_cases last : n = 0
    · subst last
      exact step_last hf open' (by omega)
    · have more : max (n + 1) 1 = max n 1 + 1 := by omega
      rw [more, List.replicate_succ]
      change (f.step _).runAll _ = _
      rw [step_unit hf open' last ok]
      exact ih rfl open'

theorem timeline_cons {deadline now i time units : Nat} {r : List (Nat × Nat × Nat)}
    (early : now + time < deadline) : timeline deadline now ((i, time, units) :: r) =
      .start i :: (List.replicate (max units 1) (.run i) ++ timeline deadline (now + time) r) := by
  rw [timeline, if_neg (by omega)]
  rfl

/-- With time for all tasks, the timeline comes to the results of all. -/
theorem runAll_timeline {deadline now : Nat} {done : List (PartitionTask α)}
    {todo : List (PartitionTask α × Nat)} (ne : todo ≠ [])
    (hf : f.tasks = done.map (·, .finished) ++ (todo.map (·.1)).map (·, .queued))
    (open' : f.closing = none) (room : 0 < f.capacity) (ok : Succeed (done ++ todo.map (·.1)))
    (time : now + (todo.map (·.2)).sum < deadline) {rs : List α}
    (hrs : results? (done ++ todo.map (·.1)) = some rs) :
    (f.runAll (timeline deadline now
      ((todo.zipIdx done.length).map fun ((t, time), i) => (i, time, t.units)))).closing =
      some (.returned (.ok rs)) := by
  induction todo generalizing f now done with
  | nil => exact absurd rfl ne
  | cons p todo ih =>
    obtain ⟨t, span⟩ := p
    simp only [List.map_cons, List.sum_cons] at hf ok time hrs
    rw [List.zipIdx_cons, List.map_cons, timeline_cons (by omega), runAll, List.foldl_cons,
      List.foldl_append, step_start hf open' room ok]
    have worked := runAll_units
      (f := { f with tasks := inOrder done t (.running t.units) (todo.map (·.1)) }) rfl open' ok
    rw [runAll] at worked
    rw [worked]
    have finished : inOrder done t .finished (todo.map (·.1)) =
        (done ++ [t]).map (·, .finished) ++ (todo.map (·.1)).map (·, .queued) := by
      simp [inOrder]
    cases todo with
    | nil =>
      refine closing_runAll ?_ _
      have results : results? (done ++ [t]) = some rs := hrs
      have verdict : verdict? ((done ++ [t]).map (·, Progress.finished)) = some (.ok rs) := by
        rw [verdict?_of_succeed (by simpa [Function.comp_def] using ok), success?_of_finished,
          results]
        rfl
      simpa [settle, open', inOrder] using verdict
    | cons p todo =>
      rw [settle_of_unfinished (t := p.1) (p := .queued) (by simpa [map_inOrder] using ok)
        (by simp [inOrder]) (by simp)]
      have more := @ih { f with tasks := inOrder done t .finished ((p :: todo).map (·.1)) }
        (now + span) (done ++ [t]) (by simp) finished open' room (by simpa using ok) (by omega)
        (by simpa using hrs)
      rw [List.length_append] at more
      exact more

end InOrder

theorem closing_timeline {capacity deadline : Nat} {tasks : List (PartitionTask α × Nat)}
    {rs : List α} (time : tasks = [] ∨ (tasks.map (·.2)).sum < deadline)
    (hrs : results? (tasks.map (·.1)) = some rs) :
    ((new capacity d (tasks.map (·.1))).runAll (timeline deadline 0
      (tasks.zipIdx.map fun ((t, time), i) => (i, time, t.units)))).closing =
        some (.returned (.ok rs)) := by
  have ok : Succeed (tasks.map (·.1)) := succeed_of_results? hrs
  cases tasks with
  | nil =>
    refine closing_runAll ?_ _
    cases hrs
    rfl
  | cons p tasks =>
    have waits : new capacity d ((p :: tasks).map (·.1)) =
        ⟨max capacity 1, d, ((p :: tasks).map (·.1)).map (·, .queued), none⟩ :=
      settle_of_unfinished (t := p.1) (p := .queued) (by simpa [Function.comp_def] using ok)
        (by simp) (by simp)
    rw [waits]
    have all : Succeed ([] ++ (p :: tasks).map (·.1)) := ok
    have room : 0 < max capacity 1 := by omega
    exact runAll_timeline (by simp) rfl rfl room all (by simpa using time) hrs

/-- Tasks that have a result each may well end in time. -/
theorem settles_of_results? {rs : List α} (h : results? ts = some rs) (capacity : Nat)
    (d : Duration) : Settles capacity d ts (.ok rs) := by
  have same : (ts.map (·, 0)).map (·.1) = ts := by simp [Function.comp_def]
  have none : ((ts.map (·, 0)).map (·.2)).sum = 0 := by
    simp [Function.comp_def, List.map_const']
  have closed : ((new capacity d ((ts.map (·, 0)).map (·.1))).runAll (timeline 1 0 _)).closing =
      some (.returned (.ok rs)) :=
    closing_timeline (.inr (by omega)) (same.symm ▸ h)
  rw [same] at closed
  exact ⟨nofun, _, closed⟩

/-- With time enough for all tasks, a query returns their results if all have one; otherwise it
fails. -/
theorem toOption_outcome {capacity : Nat} {timeout : Duration}
    {tasks : List (PartitionTask α × Nat)}
    (time : tasks = [] ∨ (tasks.map (·.2)).sum < timeout.nanoseconds) :
    (outcome capacity timeout tasks).toOption = results? (tasks.map (·.1)) := by
  cases hrs : results? (tasks.map (·.1)) with
  | none =>
    have sound := sound_runAll (sound_new capacity timeout (tasks.map (·.1)))
      (timeline timeout.nanoseconds 0
        (tasks.zipIdx.map fun ((t, time), i) => (i, time, t.units)))
    unfold outcome
    dsimp only
    split
    · next r closed =>
      cases r with
      | error e => rfl
      | ok rs => exact absurd ((sound.results rs closed).symm.trans hrs) (by simp)
    · rfl
  | some rs => simp [outcome, closing_timeline time hrs, Except.toOption]

end DataGrid.FanOut
