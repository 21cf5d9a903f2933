import DataGrid.Proofs.Pool.Accounting
import DataGrid.Proofs.Task.Race
import DataGrid.Schedule.Run

/-!
# Schedules are interleavings

Whatever a schedule does, in whatever order it is told to submit, cancel and go on, its service
comes to the same state as that of a workshop after some run. A job that serves a cell stands for
the worker of that cell: in line it waits for a slot, at work it has begun. Main statement:
`Reached.traces`.
-/

namespace DataGrid

namespace Pool

variable {p q : Pool} {i j : Nat}

/-- Nothing but job `i` is another one. -/
def Touches (i : Nat) (p q : Pool) : Prop := ∃ f, q.jobs = p.jobs.modify i f

theorem Touches.refl (i : Nat) (p : Pool) : Touches i p p := ⟨id, (List.modify_id i p.jobs).symm⟩

theorem Touches.length (h : Touches i p q) : q.jobs.length = p.jobs.length := by
  obtain ⟨f, jobs⟩ := h
  rw [jobs, List.length_modify]

theorem Touches.stage? (h : Touches i p q) (other : j ≠ i) : q.stage? j = p.stage? j := by
  obtain ⟨f, jobs⟩ := h
  rw [Pool.stage?, Pool.stage?, jobs, List.getElem?_modify_ne f _ (Ne.symm other)]

theorem touches_turn (p : Pool) (i : Nat) : Touches i p (p.turn i) := by
  unfold turn claim
  split
  · exact .refl i p
  · split
    · split <;> exact ⟨_, rfl⟩
    · split <;> exact ⟨_, rfl⟩
    · split
      · exact ⟨_, rfl⟩
      · exact .refl i p
    · exact .refl i p

theorem touches_complete (p : Pool) (i : Nat) : Touches i p (p.complete i) := by
  unfold complete
  split
  · exact ⟨_, rfl⟩
  · exact .refl i p

theorem turn_of_ended (h : p.stage? i = some .ended) : p.turn i = p := by
  obtain ⟨k, hk, ended⟩ := Option.map_eq_some_iff.1 h
  simp [turn, hk, ended]

theorem stage?_turn_of_working (h : p.stage? i = some .working) :
    (p.turn i).stage? i = some .working ∨ (p.turn i).stage? i = some .ended := by
  obtain ⟨k, hk, working⟩ := Option.map_eq_some_iff.1 h
  simp only [turn, hk, working]
  split
  · exact .inr (by simp [setStage, modifyJob, Pool.stage?, hk])
  · exact .inl h

end Pool

namespace Workshop

variable {w v : Workshop} {c : Nat} {g : Stage} {e : Event}

/-- The cell whose worker takes a step. -/
def Event.worker? : Event → Option Nat
  | .grant c | .callOff c | .start c | .finish c _ => some c
  | .submit _ | .cancel _ _ | .cancelCell _ _ | .retire _ => none

/-- The worker of a cell is where a job in a stage is. -/
def Has (w : Workshop) (c : Nat) : Stage → Prop
  | .submitted | .waiting => c ∈ w.waiting
  | .working => c ∈ w.working
  | .ended => True

theorem Moves.mem_waiting (h : w.Moves e v) (hc : c ∈ w.waiting) (other : e.worker? ≠ some c) :
    c ∈ v.waiting := by
  cases h with
  | fresh => exact .tail _ hc
  | @granted d | calledOff d =>
    have ne : c ≠ d := fun e => other (e ▸ rfl)
    exact (List.mem_erase_of_ne ne).2 hc
  | _ => exact hc

theorem Moves.mem_working (h : w.Moves e v) (hc : c ∈ w.working) (other : e.worker? ≠ some c) :
    c ∈ v.working := by
  cases h with
  | begun => exact .tail _ hc
  | @finished d =>
    have ne : c ≠ d := fun e => other (e ▸ rfl)
    exact (List.mem_erase_of_ne ne).2 hc
  | _ => exact hc

theorem Has.step (h : w.Has c g) (other : e.worker? ≠ some c) : (w.step e).Has c g := by
  cases g with
  | submitted | waiting => exact (moves_step w e).mem_waiting h other
  | working => exact (moves_step w e).mem_working h other
  | ended => trivial

theorem step_start (h : c ∈ w.granted) :
    (w.step (.start c)).service = (w.service.start c).2 ∧
      (w.step (.start c)).unretired = w.unretired ∧
      ((w.service.start c).1 = true → c ∈ (w.step (.start c)).working) := by
  simp only [step, if_pos h]
  split
  · next e => simp [e]
  · next e => simp [e]

end Workshop

namespace Schedule

variable {s s' s'' : Schedule} {w : Workshop} {x : Option Nat} {i c : Nat}

/-! ## What a step leaves alone -/

/-- For each job the cell that it serves. -/
def cells (s : Schedule) : List (Option Nat) := s.assignments.map (·.cell)

def Serves (s : Schedule) (i c : Nat) : Prop := s.cells[i]? = some (some c)

/-- The same to all that the service concerns, but for the stage of a job. -/
structure Agrees (x : Option Nat) (s s' : Schedule) : Prop where
  service : s'.service = s.service
  unretired : s'.unretired = s.unretired
  cells : s'.cells = s.cells
  count : s'.pool.jobs.length = s.pool.jobs.length
  stages : ∀ i, some i ≠ x → s'.pool.stage? i = s.pool.stage? i

theorem Agrees.refl (x : Option Nat) (s : Schedule) : Agrees x s s :=
  ⟨rfl, rfl, rfl, rfl, fun _ _ => rfl⟩

theorem Agrees.trans (h : Agrees x s s') (k : Agrees x s' s'') : Agrees x s s'' where
  service := k.service.trans h.service
  unretired := k.unretired.trans h.unretired
  cells := k.cells.trans h.cells
  count := k.count.trans h.count
  stages i other := (k.stages i other).trans (h.stages i other)

theorem Agrees.serves (h : Agrees x s s') : s'.Serves i c ↔ s.Serves i c := by
  rw [Serves, Serves, h.cells]

theorem agrees_wake (s : Schedule) (t : Turn) : Agrees x s (s.wake t) := by
  unfold wake
  split
  · exact .refl x s
  · exact ⟨rfl, rfl, rfl, rfl, fun _ _ => rfl⟩

theorem agrees_wakeRetirement (s : Schedule) (c : Nat) : Agrees x s (s.wakeRetirement c) := by
  unfold wakeRetirement
  split
  · exact agrees_wake s _
  · exact .refl x s

theorem agrees_setOutcome (s : Schedule) (i : Nat) (r : Except GridError Json) :
    Agrees x s (s.setOutcome i r) := by
  refine ⟨rfl, rfl, ?_, rfl, fun _ _ => rfl⟩
  have keeps (a : Assignment) : ({ a with outcome := some r } : Assignment).cell = a.cell := rfl
  exact map_modify_of_keeps keeps s.assignments i

theorem agrees_setPool {p : Pool} (h : s.pool.Touches i p) : Agrees (some i) s (s.setPool p) := by
  have pool : Agrees (some i) s { s with pool := p } :=
    ⟨rfl, rfl, rfl, h.length, fun j other => h.stage? fun e => other (congrArg some e)⟩
  unfold setPool
  split
  · exact pool.trans (agrees_wake _ _)
  · exact pool

/-- Marks on a job leave its stage. -/
theorem agrees_modifyJob (s : Schedule) (i : Nat) {f : PoolJob → PoolJob}
    (keeps : ∀ j, (f j).stage = j.stage) : Agrees x s { s with pool := s.pool.modifyJob i f } := by
  refine ⟨rfl, rfl, rfl, List.length_modify f s.pool.jobs i, fun j _ => ?_⟩
  simp only [Pool.stage?, ← List.getElem?_map]
  exact congrArg (·[j]?) (map_modify_of_keeps keeps s.pool.jobs i)

theorem agrees_fire (s : Schedule) (i : Nat) : Agrees x s (s.fire i) := by
  have marked : Agrees x s { s with pool := s.pool.fire i } := agrees_modifyJob s i fun _ => rfl
  simp only [fire]
  split
  · exact marked.trans (agrees_wake _ _)
  · split
    · exact marked.trans (agrees_wake _ _)
    · exact marked
  · exact marked

theorem agrees_abort (s : Schedule) (i : Nat) : Agrees x s (s.abort i) := by
  have marked : Agrees x s { s with pool := s.pool.abort i } := agrees_modifyJob s i fun _ => rfl
  simp only [abort]
  split
  · exact marked
  · exact marked
  · exact marked.trans (agrees_wake _ _)

theorem agrees_moveTo (s : Schedule) (t : Nat) : Agrees x s (s.moveTo t) := by
  have wakes (due : List (Nat × Nat)) (s : Schedule) :
      Agrees x s (due.foldl (fun s d => s.wake (.job d.2)) s) := by
    induction due generalizing s with
    | nil => exact .refl x s
    | cons d due ih => exact (agrees_wake s _).trans (ih _)
  have moved : Agrees x s { s with now := t, timers := s.timers.filter (t < ·.1) } :=
    ⟨rfl, rfl, rfl, rfl, fun _ _ => rfl⟩
  exact moved.trans (wakes _ _)

/-! ## Schedule and workshop side by side -/

/-- A schedule and a workshop that have come equally far; of job `x`, if there is one, nothing is
said. -/
structure Traces (s : Schedule) (w : Workshop) (x : Option Nat) : Prop where
  service : s.service = w.service
  unretired : s.unretired = w.unretired
  count : s.pool.jobs.length = s.cells.length
  known : ∀ i c, s.Serves i c → w.idOf? c ≠ none
  alone : ∀ i j c, s.Serves i c → s.Serves j c → i = j
  jobs : ∀ i c g, some i ≠ x → s.Serves i c → s.pool.stage? i = some g → w.Has c g

theorem Traces.agrees (h : s.Traces w x) (k : Agrees x s s') : s'.Traces w x where
  service := k.service.trans h.service
  unretired := k.unretired.trans h.unretired
  count := by rw [k.count, k.cells, h.count]
  known i c hi := h.known i c (k.serves.1 hi)
  alone i j c hi hj := h.alone i j c (k.serves.1 hi) (k.serves.1 hj)
  jobs i c g other hi hg := h.jobs i c g other (k.serves.1 hi) (k.stages i other ▸ hg)

theorem Traces.except (h : s.Traces w none) (i : Nat) : s.Traces w (some i) :=
  ⟨h.service, h.unretired, h.count, h.known, h.alone, fun j c g _ => h.jobs j c g nofun⟩

/-- What is left to be said of the one job. -/
theorem Traces.close (h : s.Traces w (some i))
    (own : ∀ c g, s.Serves i c → s.pool.stage? i = some g → w.Has c g) :
    s.Traces w none := by
  refine ⟨h.service, h.unretired, h.count, h.known, h.alone, fun j c g _ hj hg => ?_⟩
  by_cases same : j = i
  · subst same
    exact own c g hj hg
  · exact h.jobs j c g (by simpa using same) hj hg

theorem Traces.close_ended (h : s.Traces w (some i)) (ended : s.pool.stage? i = some .ended) :
    s.Traces w none := by
  refine h.close fun c g _ hg => ?_
  cases ended.symm.trans hg
  trivial

/-- An event takes place in both. If a worker takes it, it is that of the job left out. -/
theorem Traces.step (h : s.Traces w x) (e : Workshop.Event)
    (mine : ∀ c, e.worker? = some c → ∃ i, x = some i ∧ s.Serves i c)
    (service : s'.service = (w.step e).service) (unretired : s'.unretired = (w.step e).unretired)
    (cells : s'.cells = s.cells) (pool : s'.pool = s.pool) : s'.Traces (w.step e) x where
  service := service
  unretired := unretired
  count := by rw [pool, cells, h.count]
  known i c hi := by
    rw [Serves, cells] at hi
    obtain ⟨a, ha⟩ := Option.ne_none_iff_exists'.1 (h.known i c hi)
    simp [Workshop.idOf?_step ha e]
  alone i j c hi hj := by
    rw [Serves, cells] at hi hj
    exact h.alone i j c hi hj
  jobs i c g other hi hg := by
    rw [Serves, cells] at hi
    refine (h.jobs i c g other hi (pool ▸ hg)).step fun worker => ?_
    obtain ⟨j, rfl, hj⟩ := mine c worker
    exact other (congrArg some (h.alone i j c hi hj))

/-! ## Turns -/

/-- The schedule has come to where the workshop comes by some run. -/
def Leads (s : Schedule) (w : Workshop) : Prop := ∃ es, s.Traces (w.run es) none

theorem Traces.leads (h : s.Traces w none) : s.Leads w := ⟨[], h⟩

theorem Leads.step {e : Workshop.Event} (h : s.Leads (w.step e)) : s.Leads w := by
  obtain ⟨es, h⟩ := h
  exact ⟨e :: es, h⟩

theorem Leads.trans (h : s.Leads w) (k : ∀ {v}, s.Traces v none → s'.Leads v) : s'.Leads w := by
  obtain ⟨es, h⟩ := h
  obtain ⟨es', h'⟩ := k h
  exact ⟨es ++ es', by rwa [Workshop.run, List.foldl_append]⟩

theorem serves_of_assignment {a : Assignment} (hi : s.assignments[i]? = some a) :
    s.Serves i c ↔ a.cell = some c := by
  simp [Serves, cells, hi]

theorem pool_wake (s : Schedule) (t : Turn) : (s.wake t).pool = s.pool := by
  unfold wake
  split <;> rfl

theorem pool_wakeRetirement (s : Schedule) (c : Nat) : (s.wakeRetirement c).pool = s.pool := by
  unfold wakeRetirement
  split
  · exact pool_wake s _
  · rfl

theorem assignments_wakeRetirement (s : Schedule) (c : Nat) :
    (s.wakeRetirement c).assignments = s.assignments := by
  unfold wakeRetirement wake
  split
  · split <;> rfl
  · rfl

theorem assignments_setPool (s : Schedule) (p : Pool) :
    (s.setPool p).assignments = s.assignments := by
  simp only [setPool, wake]
  split
  · split <;> rfl
  · rfl

theorem pool_setPool (s : Schedule) (p : Pool) : (s.setPool p).pool = p := by
  unfold setPool
  split
  · exact pool_wake _ _
  · rfl

theorem traces_complete (h : s.Traces w (some i)) (working : s.pool.stage? i = some .working)
    (r : Except GridError Json) :
    ((s.setPool (s.pool.complete i)).setOutcome i r).Traces w none := by
  have agrees := (agrees_setPool (Pool.touches_complete s.pool i)).trans (agrees_setOutcome _ i r)
  refine (h.agrees agrees).close_ended ?_
  change (s.setPool (s.pool.complete i)).pool.stage? i = _
  rw [pool_setPool, Pool.stage?_complete working]

section Job

variable {a : Assignment} (hi : s.assignments[i]? = some a)
  (working : s.pool.stage? i = some .working)

include hi working

/-- A job at work stays so. -/
theorem Traces.close_working (h : s.Traces w (some i))
    (begun : ∀ c, a.cell = some c → c ∈ w.working) : s.Traces w none := by
  refine h.close fun c g serves hg => ?_
  cases working.symm.trans hg
  exact begun c ((serves_of_assignment hi).1 serves)

/-- A job at work brings its result. -/
theorem leads_finish (h : s.Traces w (some i)) (begun : ∀ c, a.cell = some c → c ∈ w.working)
    (e : Ending) : (s.finish i a e).Leads w := by
  have reported : ((s.report e.lines).stopTimer i).Traces w (some i) :=
    h.agrees ⟨rfl, rfl, rfl, rfl, fun _ _ => rfl⟩
  unfold finish
  cases cell : a.cell with
  | none => exact (traces_complete reported working e.result).leads
  | some c =>
    have serves : s.Serves i c := (serves_of_assignment hi).2 cell
    have step : { (s.report e.lines).stopTimer i with
        service := s.service.finish c e.result }.Traces (w.step (.finish c e.result)) (some i) := by
      refine reported.step _ (fun d hd => ?_) ?_ ?_ rfl rfl
      · cases hd
        exact ⟨i, rfl, serves⟩
      · simp [Workshop.step, begun c cell, h.service]
      · simp only [Workshop.step, begun c cell, if_true]
        exact h.unretired
    refine Leads.step (traces_complete (step.agrees (agrees_wakeRetirement _ c)) ?_ e.result).leads
    rw [pool_wakeRetirement]
    exact working

/-- A job at work begins with its opening and may end right away. -/
theorem leads_opening (h : s.Traces w (some i)) (begun : ∀ c, a.cell = some c → c ∈ w.working)
    (j : PoolJob) :
    (let s := s.report a.work.opening
     if j.blocking || a.work.duration == 0 then s.finish i a (a.work.ending j.fired)
     else { s with timers := s.timers ++ [(s.now + a.work.duration, i)] }).Leads w := by
  have reported : (s.report a.work.opening).Traces w (some i) :=
    h.agrees ⟨rfl, rfl, rfl, rfl, fun _ _ => rfl⟩
  dsimp only
  split
  · exact leads_finish (s := s.report a.work.opening) hi working reported begun _
  · refine Traces.leads (Traces.agrees (h.close_working hi working begun) ?_)
    exact ⟨rfl, rfl, rfl, rfl, fun _ _ => rfl⟩

theorem leads_continueWork (h : s.Traces w none) (j : PoolJob) :
    (s.continueWork i j a).Leads w := by
  have begun (c : Nat) (cell : a.cell = some c) : c ∈ w.working :=
    h.jobs i c .working nofun ((serves_of_assignment hi).2 cell) working
  unfold continueWork
  split
  · exact leads_finish hi working (h.except i) begun _
  · split
    · exact h.leads
    · exact leads_finish hi working (h.except i) begun _

/-- The worker of a job that has got its slot looks whether it may begin. -/
theorem leads_beginWork (h : s.Traces w (some i)) (waits : ∀ c, a.cell = some c → c ∈ w.waiting)
    (j : PoolJob) : (s.beginWork i j a).Leads w := by
  unfold beginWork
  cases cell : a.cell with
  | none => exact leads_opening hi working h (by simp [cell]) j
  | some c =>
    -- one turn here, two events there: the slot is granted, then the task may begin or not
    have serves : s.Serves i c := (serves_of_assignment hi).2 cell
    have mine (e : Workshop.Event) (he : e.worker? = some c) (d : Nat) (hd : e.worker? = some d) :
        ∃ j, some i = some j ∧ s.Serves j d := by
      cases he.symm.trans hd
      exact ⟨i, rfl, serves⟩
    have granted : s.Traces (w.step (.grant c)) (some i) := by
      refine h.step _ (mine _ rfl) ?_ ?_ rfl rfl
      · simp [Workshop.step, waits c cell, h.service]
      · simp [Workshop.step, waits c cell, h.unretired]
    have holds : c ∈ (w.step (.grant c)).granted := by simp [Workshop.step, waits c cell]
    obtain ⟨service, unretired, begins⟩ := Workshop.step_start holds
    rw [← granted.service] at service begins
    have looked : { s with service := (s.service.start c).2 }.Traces
        ((w.step (.grant c)).step (.start c)) (some i) :=
      granted.step _ (mine _ rfl) service.symm (granted.unretired.trans unretired.symm) rfl rfl
    refine Leads.step (e := .grant c) (Leads.step (e := .start c) ?_)
    have woken := looked.agrees (agrees_wakeRetirement _ c)
    have pool (t : TaskService) : ({ s with service := t }.wakeRetirement c).pool = s.pool :=
      pool_wakeRetirement _ c
    cases admitted : (s.service.start c).1 with
    | false =>
      have ended := traces_complete woken (by rw [pool]; exact working) (.ok .null)
      simpa [admitted] using ended.leads
    | true =>
      have kept : ({ s with service := (s.service.start c).2 }.wakeRetirement c).assignments[i]? =
          some a := by
        rw [assignments_wakeRetirement]
        exact hi
      have begun (d : Nat) (hd : a.cell = some d) :
          d ∈ ((w.step (.grant c)).step (.start c)).working := by
        cases cell.symm.trans hd
        exact begins admitted
      have opened := leads_opening kept (by rw [pool]; exact working) woken begun j
      simpa [admitted] using opened

end Job

theorem leads_jobTurn (h : s.Traces w none) (i : Nat) : (s.jobTurn i).Leads w := by
  unfold jobTurn
  split
  · next j a hj hi =>
    have stage : s.pool.stage? i = some j.stage := by simp [Pool.stage?, hj]
    have waits (running : j.stage ≠ .ended) (early : j.stage ≠ .working) (c : Nat)
        (cell : a.cell = some c) : c ∈ w.waiting := by
      have has := h.jobs i c _ (by simp) ((serves_of_assignment hi).2 cell) stage
      cases e : j.stage with
      | submitted | waiting => rwa [e] at has
      | working => exact absurd e early
      | ended => exact absurd e running
    have turned : (s.setPool (s.pool.turn i)).Traces w (some i) :=
      (h.except i).agrees (agrees_setPool (Pool.touches_turn s.pool i))
    have assigned : (s.setPool (s.pool.turn i)).assignments[i]? = some a := by
      rw [assignments_setPool]
      exact hi
    have pool := pool_setPool s (s.pool.turn i)
    dsimp only
    -- by what the job was before its turn and what the turn made of it
    split
    · next ended =>
      refine (turned.close_ended ?_).leads
      rw [pool, Pool.turn_of_ended (ended ▸ stage), stage, ended]
    · next ended _ =>
      have stopped : ((s.setPool (s.pool.turn i)).stopTimer i).Traces w (some i) :=
        turned.agrees ⟨rfl, rfl, rfl, rfl, fun _ _ => rfl⟩
      exact ((stopped.agrees (agrees_setOutcome _ i _)).close_ended ended).leads
    · next working other =>
      have still : (s.setPool (s.pool.turn i)).pool.stage? i = some .working := by
        rw [pool] at other ⊢
        exact (Pool.stage?_turn_of_working (working ▸ stage)).resolve_right other
      have begun (c : Nat) (cell : a.cell = some c) : c ∈ w.working :=
        h.jobs i c .working (by simp) ((serves_of_assignment hi).2 cell) (working ▸ stage)
      exact leads_continueWork assigned still (turned.close_working assigned still begun) j
    · next working running early =>
      exact leads_beginWork assigned working turned (waits running early) j
    · next running early _ still =>
      refine (turned.close fun c g serves hg => ?_).leads
      have has := waits running early c ((serves_of_assignment assigned).1 serves)
      cases g with
      | submitted | waiting => exact has
      | working => exact (still hg).elim
      | ended => trivial
  · exact h.leads

theorem leads_retirementTurn (h : s.Traces w none) (c : Nat) : (s.retirementTurn c).Leads w := by
  unfold retirementTurn
  split
  · next t ht =>
    split
    · next due =>
      have retired : w.step (.retire c) = { w with
          service := w.service.retire t.id, unretired := w.unretired.erase c } := by
        rw [h.service] at ht
        rw [h.unretired] at due
        simp [Workshop.step, ht, due]
      refine Leads.step (e := .retire c) (Traces.leads (h.step _ (by simp [Workshop.Event.worker?]) ?_ ?_ rfl rfl))
      · rw [retired, h.service]
      · rw [retired, h.unretired]
    · exact h.leads
  · exact h.leads

theorem leads_runTurns (n : Nat) (h : s.Traces w none) : (s.runTurns n).Leads w := by
  induction n generalizing s w with
  | zero => exact h.leads
  | succ n ih =>
    unfold runTurns
    split
    · exact h.leads
    · next t r ready =>
      have taken : { s with ready := r }.Traces w none :=
        h.agrees ⟨rfl, rfl, rfl, rfl, fun _ _ => rfl⟩
      refine Leads.trans (s := { s with ready := r }.take t) ?_ ih
      cases t with
      | job i => exact leads_jobTurn taken i
      | retirement c => exact leads_retirementTurn taken c

theorem leads_settle (h : s.Traces w none) : s.settle.Leads w := leads_runTurns _ h

theorem leads_runUntil (stop : Schedule → Bool) (target n : Nat) (h : s.Traces w none) :
    (runUntil stop target n s).Leads w := by
  have at_target {t : Schedule} {v : Workshop} (ht : t.Traces v none) :
      { t with now := target }.Traces v none :=
    ht.agrees ⟨rfl, rfl, rfl, rfl, fun _ _ => rfl⟩
  induction n generalizing s w with
  | zero => exact (leads_settle h).trans fun k => (at_target k).leads
  | succ n ih =>
    refine (leads_settle h).trans fun k => ?_
    unfold runUntil
    dsimp only
    split
    · exact k.leads
    · split
      · split
        · exact ih (k.agrees (agrees_moveTo _ _))
        · exact (at_target k).leads
      · exact (at_target k).leads

/-! ## Orders -/

/-- A new job stands in line; a cell that it serves is new as well, and has a worker that waits. -/
theorem traces_assign (h : s.Traces w none) (a : Assignment) (blocking : Bool)
    (fresh : ∀ c, a.cell = some c → w.idOf? c ≠ none ∧ c ∈ w.waiting ∧ ∀ i, ¬ s.Serves i c) :
    (s.assign a blocking).Traces w none := by
  have added : { s with
      pool := s.pool.submit blocking, assignments := s.assignments ++ [a] }.Traces w none := by
    have serves {i c : Nat} (hi : (List.map Assignment.cell (s.assignments ++ [a]))[i]? =
        some (some c)) : s.Serves i c ∨ i = s.cells.length ∧ a.cell = some c := by
      have hi : (s.cells ++ [a.cell])[i]? = some (some c) := by simpa [cells] using hi
      rw [List.getElem?_append] at hi
      split at hi
      · exact .inl hi
      · obtain ⟨last, cell⟩ := List.getElem?_eq_some_iff.1 hi
        simp only [List.length_singleton, Nat.lt_one_iff] at last
        simp only [last, List.getElem_cons_zero] at cell
        exact .inr ⟨by omega, cell⟩
    refine ⟨h.service, h.unretired, ?_, fun i c hi => ?_, fun i j c hi hj => ?_,
      fun i c g other hi hg => ?_⟩
    · simpa [cells, Pool.submit] using h.count
    · rcases serves hi with old | ⟨-, new⟩
      · exact h.known i c old
      · exact (fresh c new).1
    · rcases serves hi with old | ⟨last, new⟩
      · rcases serves hj with old' | ⟨-, new⟩
        · exact h.alone i j c old old'
        · exact absurd old ((fresh c new).2.2 i)
      · rcases serves hj with old | ⟨last', -⟩
        · exact absurd old ((fresh c new).2.2 j)
        · exact last.trans last'.symm
    · simp only [Pool.stage?, Pool.submit, List.getElem?_append, h.count] at hg
      rcases serves hi with old | ⟨rfl, new⟩
      · have lt : i < s.cells.length := (List.getElem?_eq_some_iff.1 old).1
        rw [if_pos lt] at hg
        exact h.jobs i c g other old hg
      · simp only [Nat.lt_irrefl, if_false, Nat.sub_self, List.getElem?_cons_zero,
          Option.map_some, Option.some.injEq] at hg
        subst hg
        exact (fresh c new).2.1
  exact added.agrees (agrees_wake _ _)

theorem leads_submitTask (h : s.Traces w none) (r : Registry) (id : String) (t : Task) :
    (s.submitTask r id t).2.Leads w := by
  refine Leads.step (e := .submit id) ?_
  unfold submitTask
  cases e : s.service.submit id with
  | mk submission service =>
    have e' : w.service.submit id = (submission, service) := by rw [← h.service, e]
    cases submission with
    | settled c =>
      refine Traces.leads (h.step _ nofun ?_ ?_ rfl rfl)
      · simp [Workshop.step, e']
      · simp [Workshop.step, e', h.unretired]
    | fresh c =>
      have submitted : { s with service, unretired := c :: s.unretired }.Traces
          (w.step (.submit id)) none := by
        refine h.step _ nofun ?_ ?_ rfl rfl
        · simp [Workshop.step, e']
        · simp [Workshop.step, e', h.unretired]
      obtain ⟨-, rfl, hc⟩ := TaskService.submit_fresh (congrArg Prod.fst e)
      refine ((traces_assign submitted _ false fun d hd => ?_).agrees (agrees_wake _ _)).leads
      cases hd
      refine ⟨?_, ?_, fun i serves => h.known i _ serves ?_⟩
      · rw [e] at hc
        simp [Workshop.idOf?, ← submitted.service, hc]
      · simp [Workshop.step, e']
      · simp [Workshop.idOf?, TaskService.cell?, ← h.service]

theorem leads_cancelCell (h : s.Traces w none) (c : Nat) (interrupt : Bool) :
    (s.cancelCell c interrupt).2.Leads w := by
  refine Leads.step (e := .cancelCell c interrupt) (Traces.leads ?_)
  have cancelled : { s with service := (s.service.cancelCell c interrupt).2 }.Traces
      (w.step (.cancelCell c interrupt)) none :=
    h.step _ nofun (by rw [h.service]; rfl) h.unretired rfl rfl
  unfold cancelCell
  dsimp only
  split
  · split
    · split
      · exact (cancelled.agrees (agrees_wakeRetirement _ c)).agrees (agrees_fire _ _)
      · exact cancelled.agrees (agrees_wakeRetirement _ c)
    · exact cancelled.agrees (agrees_wakeRetirement _ c)
  · exact cancelled

theorem leads_cancelTask (h : s.Traces w none) (id : String) (interrupt : Bool) :
    (s.cancelTask id interrupt).2.Leads w := by
  unfold cancelTask
  split
  · exact leads_cancelCell h _ interrupt
  · refine Leads.step (e := .cancel id interrupt) (Traces.leads ?_)
    exact h.step _ nofun (by rw [h.service]; rfl) h.unretired rfl rfl

/-- The schedules that come of an idle one by giving orders and letting time go by. -/
inductive Reached (limit : Nat) : Schedule → Prop
  | new (capacity : Nat) : Reached limit (.new capacity limit)
  | submitWork {s : Schedule} (h : Reached limit s) (w : Work) (blocking : Bool) :
      Reached limit (s.submitWork w blocking).2
  | submitTask {s : Schedule} (h : Reached limit s) (r : Registry) (id : String) (t : Task) :
      Reached limit (s.submitTask r id t).2
  | cancelJob {s : Schedule} (h : Reached limit s) (i : Nat) : Reached limit (s.cancelJob i)
  | cancelCell {s : Schedule} (h : Reached limit s) (c : Nat) (interrupt : Bool) :
      Reached limit (s.cancelCell c interrupt).2
  | cancelTask {s : Schedule} (h : Reached limit s) (id : String) (interrupt : Bool) :
      Reached limit (s.cancelTask id interrupt).2
  | runUntil {s : Schedule} (h : Reached limit s) (stop : Schedule → Bool) (target n : Nat) :
      Reached limit (runUntil stop target n s)

/-- What a schedule does is an interleaving of submissions, cancellations and the steps of
workers. -/
theorem Reached.traces {limit : Nat} (h : Reached limit s) : s.Leads (.new limit) := by
  induction h with
  | new capacity =>
    exact Traces.leads ⟨rfl, rfl, rfl, nofun, nofun, nofun⟩
  | submitWork h w blocking ih =>
    exact ih.trans fun k => (traces_assign k ⟨w, none, none⟩ blocking nofun).leads
  | submitTask h r id t ih => exact ih.trans fun k => leads_submitTask k r id t
  | cancelJob h i ih =>
    exact ih.trans fun k => (k.agrees ((agrees_fire _ i).trans (agrees_abort _ i))).leads
  | cancelCell h c interrupt ih => exact ih.trans fun k => leads_cancelCell k c interrupt
  | cancelTask h id interrupt ih => exact ih.trans fun k => leads_cancelTask k id interrupt
  | runUntil h stop target n ih => exact ih.trans fun k => leads_runUntil stop target n k

end Schedule

end DataGrid
