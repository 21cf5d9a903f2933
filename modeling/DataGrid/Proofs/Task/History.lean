import DataGrid.Proofs.Run
import DataGrid.Proofs.Task.Service

/-!
# The history of a cell

A cell is shared by the worker, the cancellers and the readers of its task, whose calls may come
in any order. A cancellation takes two steps: the phase is settled, and then, before it returns,
the token fires. Other calls may come in between. Main statement: whatever the order, a cell has
one history (`one_history`).
-/

namespace DataGrid

namespace TaskCell

/-- The state together with the outcome, as a reader sees them. -/
def snapshot (c : TaskCell) : TaskState × Option (Except GridError Json) := (c.state, c.outcome?)

/-- What a cancellation makes of the phase. -/
def settle (c : TaskCell) : TaskCell :=
  if c.state.isTerminal then c else { c with phase := .cancelled }

/-- Whether a cancellation makes the token fire. -/
def interrupts (c : TaskCell) (interrupt : Bool) : Bool :=
  match c.phase with
  | .submitted => true
  | .running => interrupt
  | _ => false

theorem cancel_eq (c : TaskCell) (interrupt : Bool) :
    c.cancel interrupt =
      (!c.state.isTerminal, { c.settle with fired := c.fired || c.interrupts interrupt }) := by
  obtain ⟨id, phase, fired⟩ := c
  cases phase <;> simp [cancel, settle, interrupts, state, Phase.state, TaskState.isTerminal]

theorem later_settle (c : TaskCell) : c.Later c.settle := by
  obtain ⟨id, phase, fired⟩ := c
  cases phase <;>
    exact ⟨rfl, by simp [settle, state, Phase.state, TaskState.isTerminal],
      by simp [settle, state, Phase.state, TaskState.isTerminal], fun h => h⟩

@[simp] theorem fired_start (c : TaskCell) : c.start.2.fired = c.fired := by
  unfold start; split <;> rfl

@[simp] theorem fired_finish (c : TaskCell) (r : Except GridError Json) :
    (c.finish r).fired = c.fired := by
  unfold finish; split <;> rfl

@[simp] theorem fired_settle (c : TaskCell) : c.settle.fired = c.fired := by
  unfold settle; split <;> rfl

theorem interrupts_iff {c : TaskCell} {interrupt : Bool} :
    c.interrupts interrupt = true ↔ (c.cancel interrupt).1 = true ∧
      (c.state = .submitted ∨ c.state = .running ∧ interrupt = true) := by
  obtain ⟨id, phase, fired⟩ := c
  cases phase <;> simp [interrupts, cancel, state, Phase.state]

theorem phase_of_outcome? {c : TaskCell} {v : Json} (h : c.outcome? = some (.ok v)) :
    c.phase = .completed v := by
  obtain ⟨id, phase, fired⟩ := c
  cases phase <;> simp_all [outcome?, Phase.outcome?]

end TaskCell

/-- A cell under calls of several parties. -/
structure SharedCell where
  cell : TaskCell
  /-- Whether a cancellation that has settled the phase has still to fire the token. -/
  due : Bool := false

namespace SharedCell

inductive Call where
  | start
  | finish (result : Except GridError Json)
  /-- The phase is settled. -/
  | cancel (interrupt : Bool)
  /-- The token fires, if it is to, and the cancellation that was accepted returns. -/
  | fire
  | read

/-- A cell as its maker leaves it, for a task that may have been cancelled early. -/
def make (id : String) (early : Bool) : SharedCell where
  cell := if early then .newCancelled id else .new id

def step (s : SharedCell) : Call → SharedCell
  | .start => { s with cell := s.cell.start.2 }
  | .finish r => { s with cell := s.cell.finish r }
  | .cancel interrupt => ⟨s.cell.settle, s.due || s.cell.interrupts interrupt⟩
  | .fire => ⟨{ s.cell with fired := s.cell.fired || s.due }, false⟩
  | .read => s

def run (s : SharedCell) (calls : List Call) : SharedCell := calls.foldl step s

/-- The worker is told to begin. -/
def starts (s : SharedCell) : Call → Bool
  | .start => s.cell.start.1
  | _ => false

/-- The call moves the cell into a terminal state. -/
def ends (s : SharedCell) (c : Call) : Bool :=
  !s.cell.state.isTerminal && (s.step c).cell.state.isTerminal

variable {s : SharedCell} {c : Call} {calls : List Call}

/-- Without a call in between, the two steps of a cancellation are one. -/
theorem step_fire_cancel (idle : s.due = false) (interrupt : Bool) :
    ((s.step (.cancel interrupt)).step .fire) = ⟨(s.cell.cancel interrupt).2, false⟩ := by
  simp [step, TaskCell.cancel_eq, idle]

/-! ## One call -/

theorem later_step (s : SharedCell) (c : Call) : s.cell.Later (s.step c).cell := by
  cases c with
  | start => exact s.cell.later_start
  | finish r => exact s.cell.later_finish r
  | cancel interrupt => exact s.cell.later_settle
  | fire => exact ⟨rfl, fun _ => rfl, fun h => h, fun h => by simp [step, h]⟩
  | read => exact .refl _

/-- A cell begins to run by being started. -/
theorem step_running (before : s.cell.state ≠ .running) (after : (s.step c).cell.state = .running) :
    c = .start ∧ s.cell.start.1 = true := by
  obtain ⟨⟨id, phase, fired⟩, due⟩ := s
  cases c <;> cases phase <;>
    simp_all [step, TaskCell.start, TaskCell.finish, TaskCell.settle, TaskCell.state, Phase.state,
      TaskState.isTerminal]

/-- A cell is completed by a result that comes while it runs. -/
theorem step_completed {v : Json} (before : s.cell.phase ≠ .completed v)
    (after : (s.step c).cell.phase = .completed v) :
    c = .finish (.ok v) ∧ s.cell.state = .running := by
  have result {r : Except GridError Json} (h : Phase.ofResult r = .completed v) : r = .ok v := by
    unfold Phase.ofResult at h
    split at h <;> simp_all
  obtain ⟨⟨id, phase, fired⟩, due⟩ := s
  cases c with
  | finish r =>
    cases phase with
    | running => exact ⟨by rw [result after], rfl⟩
    | _ => exact absurd after before
  | fire | read => exact absurd after before
  | start | cancel =>
    cases phase <;>
      simp_all [step, TaskCell.start, TaskCell.settle, TaskCell.state, Phase.state,
        TaskState.isTerminal]

/-- The token fires for a cancellation that has settled the phase. -/
theorem step_fired (before : ¬ s.cell.fired = true) (after : (s.step c).cell.fired = true) :
    c = .fire ∧ s.due = true := by
  rw [Bool.not_eq_true] at before
  cases c with
  | fire => exact ⟨rfl, by simpa [step, before] using after⟩
  | start | finish | cancel | read => simp [step, before] at after

theorem step_due (before : ¬ s.due = true) (after : (s.step c).due = true) :
    ∃ interrupt, c = .cancel interrupt ∧ s.cell.interrupts interrupt = true := by
  rw [Bool.not_eq_true] at before
  cases c with
  | cancel interrupt => exact ⟨interrupt, rfl, by simpa [step, before] using after⟩
  | start | finish | fire | read => simp [step, before] at after

/-- The token has fired, or is about to. -/
def Fires (s : SharedCell) : Prop := s.cell.fired = true ∨ s.due = true

theorem Fires.step (h : s.Fires) (c : Call) : (s.step c).Fires := by
  rcases h with fired | due
  · exact .inl ((s.later_step c).fired fired)
  · cases c with
    | cancel interrupt => exact .inr (by simp [SharedCell.step, due])
    | fire => exact .inl (by simp [SharedCell.step, due])
    | start | finish | read => exact .inr due

/-! ## Runs -/

theorem run_append (s : SharedCell) (calls more : List Call) :
    s.run (calls ++ more) = (s.run calls).run more :=
  List.foldl_append

theorem later_run (s : SharedCell) (calls : List Call) : s.cell.Later (s.run calls).cell := by
  induction calls generalizing s with
  | nil => exact .refl _
  | cons c calls ih => exact (s.later_step c).trans (ih (s.step c))

theorem Fires.run (h : s.Fires) (calls : List Call) : (s.run calls).Fires := by
  induction calls generalizing s with
  | nil => exact h
  | cons c calls ih => exact ih (h.step c)

/-- The work is told to begin once at most. -/
theorem count_starts (s : SharedCell) (calls : List Call) : Run.count step starts s calls ≤ 1 := by
  refine Run.count_le_one step (F := fun s : SharedCell => s.cell.state = .submitted)
    (fun s c begins => ?_)
    (fun s c => (s.later_step c).begun) s calls
  cases c with
  | start =>
    obtain ⟨submitted, running⟩ := TaskCell.start_eq_true begins
    exact ⟨submitted, by simp [step, running]⟩
  | _ => cases begins

/-- Terminal states are entered once at most. -/
theorem count_ends (s : SharedCell) (calls : List Call) : Run.count step ends s calls ≤ 1 := by
  refine Run.count_le_one step (F := fun s : SharedCell => s.cell.state.isTerminal = false)
    (fun s c h => ?_)
    (fun s c ended => ?_) s calls
  · simpa [ends] using h
  · rw [Bool.not_eq_false] at ended ⊢
    rw [TaskCell.state, (s.later_step c).ended ended]
    exact ended

/-- What is terminal does not change any more. -/
theorem snapshot_run (ended : s.cell.state.isTerminal = true) (calls : List Call) :
    (s.run calls).cell.snapshot = s.cell.snapshot := by
  simp only [TaskCell.snapshot, TaskCell.state, TaskCell.outcome?, (s.later_run calls).ended ended]

/-- An accepted cancellation is for good. -/
theorem phase_run_cancel {interrupt : Bool} (accepted : (s.cell.cancel interrupt).1 = true)
    (calls : List Call) :
    ((s.step (.cancel interrupt)).run calls).cell.phase = .cancelled := by
  have cancelled : (s.step (.cancel interrupt)).cell.phase = .cancelled := by
    rw [TaskCell.cancel_eq, Bool.not_eq_true'] at accepted
    simp [step, TaskCell.settle, accepted]
  exact ((later_run _ calls).ended (TaskCell.isTerminal_of_cancelled cancelled)).trans cancelled

/-- A completed cell was started, and got its value while it ran. -/
theorem completed_run {v : Json} (new : s.cell.state = .submitted ∨ s.cell.state = .cancelled)
    (completed : (s.run calls).cell.phase = .completed v) :
    ∃ pre between post, calls = pre ++ .start :: between ++ .finish (.ok v) :: post ∧
      (s.run pre).cell.start.1 = true ∧
      (s.run (pre ++ .start :: between)).cell.state = .running := by
  have unfinished : s.cell.phase ≠ .completed v := by
    intro h
    simp [TaskCell.state, h, Phase.state] at new
  have idle : s.cell.state ≠ .running := by
    rintro h
    simp [h] at new
  obtain ⟨begun, c, post, rfl, before, after⟩ :=
    Run.exists_step step (P := fun t => t.cell.phase = .completed v) unfinished completed
  obtain ⟨rfl, running⟩ := step_completed before after
  obtain ⟨pre, c, between, rfl, before, after⟩ :=
    Run.exists_step step (P := fun t => t.cell.state = .running) idle running
  obtain ⟨rfl, accepted⟩ := step_running before after
  exact ⟨pre, between, post, rfl, accepted, running⟩

/-- The token has fired if and only if it had at first, or a cancellation that was to make it fire
has returned. -/
theorem fired_run (idle : s.due = false) :
    (s.run calls).cell.fired = true ↔ s.cell.fired = true ∨ ∃ pre interrupt between post,
      calls = pre ++ .cancel interrupt :: between ++ .fire :: post ∧
        (s.run pre).cell.interrupts interrupt = true := by
  constructor
  · intro fired
    by_cases first : s.cell.fired = true
    · exact .inl first
    · obtain ⟨settled, c, post, rfl, before, after⟩ :=
        Run.exists_step step (P := fun t => t.cell.fired = true) first fired
      obtain ⟨rfl, due⟩ := step_fired before after
      obtain ⟨pre, c, between, rfl, before, after⟩ :=
        Run.exists_step step (P := fun t => t.due = true) (by simp [idle]) due
      obtain ⟨interrupt, rfl, interrupts⟩ := step_due before after
      exact .inr ⟨pre, interrupt, between, post, rfl, interrupts⟩
  · rintro (first | ⟨pre, interrupt, between, post, rfl, interrupts⟩)
    · exact (s.later_run calls).fired first
    · have settled : ((s.run pre).step (.cancel interrupt)).Fires :=
        .inr (by simp [step, interrupts])
      have fires : (s.run (pre ++ .cancel interrupt :: between)).Fires := by
        rw [run_append]
        exact settled.run between
      have fired :
          ((s.run (pre ++ .cancel interrupt :: between)).step .fire).cell.fired = true := by
        simpa [step, Fires] using fires
      rw [run_append]
      exact (later_run _ post).fired fired

/-- Whatever is called in whatever order, a cell has one history. The work is told to begin once at
most; one call at most moves the cell into a terminal state, where it stays with its outcome. After
a cancellation has been accepted it is cancelled for every reader, lets no work begin, accepts no
other cancellation and ignores results. A completed cell has the value of a result that came while
it ran, after its start. The token has fired if and only if the task was cancelled early, or a
cancellation has returned that was accepted before the work began, or while it ran and with the
wish to interrupt it. -/
theorem one_history (id : String) (early : Bool) (calls : List Call) :
    let s := make id early
    let t := s.run calls
    Run.count step starts s calls ≤ 1 ∧
    Run.count step ends s calls ≤ 1 ∧
    (∀ pre post, calls = pre ++ post → (s.run pre).cell.state.isTerminal = true →
      t.cell.snapshot = (s.run pre).cell.snapshot) ∧
    (∀ pre interrupt post, calls = pre ++ .cancel interrupt :: post →
      ((s.run pre).cell.cancel interrupt).1 = true →
      t.cell.snapshot = (.cancelled, some (.error .cancelled)) ∧ t.cell.start.1 = false ∧
        (∀ i, (t.cell.cancel i).1 = false) ∧ ∀ r, t.cell.finish r = t.cell) ∧
    (∀ v, t.cell.outcome? = some (.ok v) → ∃ pre between post,
      calls = pre ++ .start :: between ++ .finish (.ok v) :: post ∧
        (s.run pre).cell.start.1 = true ∧
        (s.run (pre ++ .start :: between)).cell.state = .running) ∧
    (t.cell.fired = true ↔ early = true ∨ ∃ pre interrupt between post,
      calls = pre ++ .cancel interrupt :: between ++ .fire :: post ∧
        ((s.run pre).cell.cancel interrupt).1 = true ∧
        ((s.run pre).cell.state = .submitted ∨
          (s.run pre).cell.state = .running ∧ interrupt = true)) := by
  intro s t
  refine ⟨count_starts s calls, count_ends s calls, ?_, ?_, ?_, ?_⟩
  · rintro pre post rfl ended
    rw [show t = _ from run_append s pre post]
    exact snapshot_run ended post
  · rintro pre interrupt post rfl accepted
    have cancelled : t.cell.phase = .cancelled := by
      rw [show t = _ from run_append s pre _]
      exact phase_run_cancel accepted post
    refine ⟨?_, ?_, fun i => ?_, fun r => ?_⟩
    · simp [TaskCell.snapshot, TaskCell.state, TaskCell.outcome?, cancelled, Phase.state,
        Phase.outcome?]
    · simp [TaskCell.start, cancelled]
    · simp [TaskCell.cancel, cancelled]
    · simp [TaskCell.finish, cancelled]
  · intro v completed
    have new : s.cell.state = .submitted ∨ s.cell.state = .cancelled := by
      cases early
      · exact .inl rfl
      · exact .inr rfl
    exact completed_run new (TaskCell.phase_of_outcome? completed)
  · have made : s.cell.fired = early := by cases early <;> rfl
    rw [fired_run rfl, made]
    simp only [TaskCell.interrupts_iff]

end SharedCell

end DataGrid
