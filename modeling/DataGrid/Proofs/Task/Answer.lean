import DataGrid.Node.Basic
import DataGrid.Proofs.Schedule.Interleaving
import DataGrid.Proofs.Task.Agreement

/-!
# Answers to cancellations

Who asks for a cancellation is told whether it was accepted and the state that the task then has.
These are two looks at the records, and others may take steps in between. Main statements: when the
cancellation is refused, the answer has the state in which the task had ended, as long as its record
is there (`refused_answer`); a completed task that is forgotten in between is answered as cancelled
(`refused_answer_forgotten`).
-/

namespace DataGrid

namespace TaskService

variable {s : TaskService} {c : Nat} {t : TaskCell} {id : String}

theorem status?_of_live (hr : s.records[id]? = some (.live c)) (hc : s.cell? c = some t) :
    s.status? id = some t.state := by
  rw [status?, snapshot?, handle?_eq_some.2 hr, Option.bind_some, hc, Option.map_some]

theorem status?_of_not_live (hr : ∀ c, s.records[id]? ≠ some (.live c)) : s.status? id = none := by
  have none : s.handle? id = none :=
    Option.eq_none_iff_forall_ne_some.2 fun c hc => hr c (handle?_eq_some.1 hc)
  rw [status?, snapshot?, none, Option.bind_none, Option.map_none]

/-- A cancellation is only refused for a task that has ended. -/
theorem Sound.cancel_refused (sound : s.Sound) {interrupt : Bool}
    (refused : (s.cancel id interrupt).1 = false) :
    ∃ c t, s.records[id]? = some (.live c) ∧ s.cell? c = some t ∧ t.id = id ∧
      t.state.isTerminal = true := by
  cases hr : s.records[id]? with
  | none => simp [cancel_of_none hr] at refused
  | some r =>
    cases r with
    | tombstone => simp [cancel_of_tombstone hr] at refused
    | live c =>
      obtain ⟨t, hc, named⟩ := sound.named id c hr
      rw [cancel_of_cell hr hc, Bool.not_eq_false'] at refused
      exact ⟨c, t, rfl, hc, named, refused⟩

end TaskService

namespace Schedule

variable {s : Schedule}

@[simp] theorem service_wakeRetirement (s : Schedule) (c : Nat) :
    (s.wakeRetirement c).service = s.service :=
  (agrees_wakeRetirement s c (x := none)).service

@[simp] theorem service_fire (s : Schedule) (i : Nat) : (s.fire i).service = s.service :=
  (agrees_fire s i (x := none)).service

theorem service_cancelCell (s : Schedule) (c : Nat) (interrupt : Bool) :
    (s.cancelCell c interrupt).1 = (s.service.cancelCell c interrupt).1 ∧
      (s.cancelCell c interrupt).2.service = (s.service.cancelCell c interrupt).2 := by
  unfold cancelCell
  dsimp only
  split
  · next accepted =>
    split
    · split <;> simp [accepted]
    · simp [accepted]
  · next refused => exact ⟨(Bool.eq_false_iff.2 refused).symm, rfl⟩

/-- To the service, a cancellation on a schedule is one of its own. -/
theorem service_cancelTask (s : Schedule) (id : String) (interrupt : Bool) :
    (s.cancelTask id interrupt).1 = (s.service.cancel id interrupt).1 ∧
      (s.cancelTask id interrupt).2.service = (s.service.cancel id interrupt).2 := by
  unfold cancelTask
  split
  · next c known =>
    rw [TaskService.cancel_of_live (TaskService.handle?_eq_some.1 known)]
    exact service_cancelCell s c interrupt
  · exact ⟨rfl, rfl⟩

end Schedule

namespace Workshop

open TaskService

variable {w : Workshop} {c : Nat} {id : String} {es : List Event}

/-- The answer to a cancellation, when others take the steps `between` before its second look. -/
def cancelAnswer (w : Workshop) (id : String) (interrupt : Bool) (between : List Event) :
    CancelAnswer :=
  Node.cancelAnswer id (w.service.cancel id interrupt).1
    (((w.step (.cancel id interrupt)).run between).service.status? id)

/-- A node that does nothing else gives the answer without steps in between. -/
theorem cancel_eq_cancelAnswer (n : Node) (same : n.schedule.service = w.service) (id : String)
    (interrupt : Bool) : (n.cancel ⟨id, interrupt⟩).1 = w.cancelAnswer id interrupt [] := by
  obtain ⟨accepted, service⟩ := n.schedule.service_cancelTask id interrupt
  simp only [Node.cancel, cancelAnswer, accepted, service, same]
  rfl

/-- A task that is on record was so before, or was submitted since. -/
theorem live_before (bounded : w.service.Bounded) (unsubmitted : Event.submit id ∉ es)
    (hr : (w.run es).service.records[id]? = some (.live c)) :
    w.service.records[id]? = some (.live c) := by
  induction es generalizing w with
  | nil => exact hr
  | cons e es ih =>
    rw [List.mem_cons, not_or] at unsubmitted
    have effect := effect_step w e
    exact effect.live bounded (Ne.symm unsubmitted.1)
      (ih (effect.bounded bounded) unsubmitted.2 hr)

/-- Whatever others do between the two looks: if the answer says that the cancellation was refused,
the task had ended before, and the answer has the state in which it had, unless as many tasks as the
limit allows have been retired after it by the second look. So it has in the answer of a node, where
nothing comes in between. If the record is gone, the answer says that the task is cancelled, in
whatever state it had ended, as long as its id is not submitted again. -/
theorem refused_answer (limit : Nat) (before between : List Event) (id : String)
    (interrupt : Bool) :
    let w := (new limit).run before
    let past := (new limit).retirements (before ++ .cancel id interrupt :: between)
    let answer := w.cancelAnswer id interrupt between
    answer.cancelled = false →
    ∃ c t, w.service.records[id]? = some (.live c) ∧ w.service.cell? c = some t ∧
      t.state.isTerminal = true ∧
      (c ∉ past.drop limit → answer.state = t.state) ∧
      (∀ n : Node, n.schedule.service = w.service →
        (n.cancel ⟨id, interrupt⟩).1 = ⟨id, false, t.state⟩) ∧
      (c ∈ past.drop limit → .submit id ∉ between → answer.state = .cancelled) := by
  intro w past answer refused
  have orderly : w.Orderly := (orderly_new limit).run before
  have bounded : w.service.Bounded := (recalls_run limit before).bounded
  obtain ⟨c, t, hr, hc, rfl, ended⟩ := orderly.sound.cancel_refused refused
  have joined : (new limit).run (before ++ .cancel t.id interrupt :: between) =
      (w.step (.cancel t.id interrupt)).run between := run_append _ _ _
  have mine : ((w.step (.cancel t.id interrupt)).run between).service.idOf? c = some t.id :=
    idOf?_run (idOf?_step (by simp [idOf?, hc]) _) between
  have known := (recalls_run limit (before ++ .cancel t.id interrupt :: between)).known_iff
    (joined ▸ mine)
  rw [joined] at known
  -- the cell does not move any more, so that its record tells the state in which it ended
  have told (more : List Event)
      (hr' : ((w.step (.cancel t.id interrupt)).run more).service.records[t.id]? =
        some (.live c)) : (w.cancelAnswer t.id interrupt more).state = t.state := by
    obtain ⟨t', hc', later⟩ := later_run hc (.cancel t.id interrupt :: more)
    have status := status?_of_live hr' hc'
    rw [cancelAnswer, Node.cancelAnswer, status, Option.getD_some, TaskCell.state,
      later.ended ended, TaskCell.state]
  refine ⟨c, t, hr, hc, ended, fun kept => told between (known.2 kept), fun n same => ?_,
    fun gone unsubmitted => ?_⟩
  · have here : (w.step (.cancel t.id interrupt)).service.records[t.id]? = some (.live c) := by
      change (w.service.cancel t.id interrupt).2.records[t.id]? = _
      rw [cancel_of_cell hr hc]
      exact hr
    rw [cancel_eq_cancelAnswer n same]
    exact congrArg₂ (CancelAnswer.mk t.id) refused (told [] here)
  · have effect := effect_step w (.cancel t.id interrupt)
    have none : ((w.step (.cancel t.id interrupt)).run between).service.status? t.id = none := by
      refine status?_of_not_live fun d hd => ?_
      have first := effect.live bounded (by simp)
        (live_before (effect.bounded bounded) unsubmitted hd)
      obtain rfl : c = d := by simpa using hr.symm.trans first
      exact known.1 hd gone
    change (Node.cancelAnswer _ _ _).state = _
    rw [Node.cancelAnswer, none]
    rfl

/-- A task that was cancelled is cancelled again, while another one is retired. -/
theorem refused_answer_again :
    let w := (new 2).run [.submit "a", .cancel "a" true, .retire 0, .submit "b", .grant 1,
      .start 1, .finish 1 (.ok .null)]
    (w.cancelAnswer "a" true [.retire 1]).cancelled = false ∧
      (w.cancelAnswer "a" true [.retire 1]).state = .cancelled ∧
      w.stateOf? 0 = some .cancelled := by
  have refused := refused_answer 2 [.submit "a", .cancel "a" true, .retire 0, .submit "b",
    .grant 1, .start 1, .finish 1 (.ok .null)] [.retire 1] "a" true (by decide)
  obtain ⟨c, t, hr, hc, -, kept, -, -⟩ := refused
  obtain rfl : 0 = c := by
    have first : ((new 2).run [.submit "a", .cancel "a" true, .retire 0, .submit "b",
      .grant 1, .start 1, .finish 1 (.ok .null)]).service.records["a"]? = some (.live 0) := by
        decide
    simpa using first.symm.trans hr
  obtain rfl := Option.some.inj (hc : some (⟨"a", .cancelled, true⟩ : TaskCell) = some t)
  exact ⟨by decide, kept (by decide), rfl⟩

/-- A task completes, and its cancellation is refused. Before the second look another task is
retired, for which it is forgotten, and the answer says that it is cancelled. -/
theorem refused_answer_forgotten :
    let w := (new 1).run [.submit "a", .grant 0, .start 0, .finish 0 (.ok .null), .retire 0,
      .submit "b"]
    let answer := w.cancelAnswer "a" true [.grant 1, .start 1, .finish 1 (.ok .null), .retire 1]
    w.service.status? "a" = some .completed ∧ w.stateOf? 0 = some .completed ∧
      answer.cancelled = false ∧ answer.state = .cancelled := by
  decide

end Workshop

end DataGrid
