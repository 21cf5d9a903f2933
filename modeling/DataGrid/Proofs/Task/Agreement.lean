import DataGrid.Proofs.Task.Retention

/-!
# Canceller and reader

Who cancels a task by its id and who holds a handle on it are told the same, as long as the task
is on record. Main statements: an accepted cancellation of a task on record excludes every other
outcome, before and after (`canceller_and_reader_agree`); of a completed task that is forgotten,
the cancellation is accepted as well (`canceller_and_reader_differ`).
-/

namespace DataGrid

namespace TaskService

variable {s : TaskService} {c : Nat} {t : TaskCell} {id : String}

theorem cancel_of_cell (hr : s.records[id]? = some (.live c)) (hc : s.cell? c = some t)
    (interrupt : Bool) :
    s.cancel id interrupt = (!t.state.isTerminal, s.setCell c (t.cancel interrupt).2) := by
  rw [cancel_of_live hr, cancelCell, hc, ← TaskCell.cancel_fst t interrupt]

end TaskService

namespace Workshop

open TaskService

variable {w : Workshop} {c : Nat} {t : TaskCell} {id : String}

/-- What has no outcome had none before. -/
theorem outcome?_before {es : List Event} {t' : TaskCell} (hc : w.service.cell? c = some t)
    (hc' : (w.run es).service.cell? c = some t') (active : t'.state.isTerminal = false) :
    t.outcome? = none := by
  obtain ⟨t'', hc'', later⟩ := later_run hc es
  rw [hc'] at hc''
  cases hc''
  rw [← Option.not_isSome_iff_eq_none, TaskCell.outcome?_isSome]
  intro ended
  rw [TaskCell.state, later.ended ended] at active
  exact absurd ended (by simp [TaskCell.state, active])

/-- What is cancelled stays so. -/
theorem outcome?_after (hc : w.service.cell? c = some t) (cancelled : t.phase = .cancelled)
    (es : List Event) :
    ∃ t', (w.run es).service.cell? c = some t' ∧ t'.outcome? = some (.error .cancelled) := by
  obtain ⟨t', hc', later⟩ := later_run hc es
  have same := later.ended (TaskCell.isTerminal_of_cancelled cancelled)
  exact ⟨t', hc', by rw [TaskCell.outcome?, same, cancelled, Phase.outcome?]⟩

/-- The task of a handle is on record until as many tasks as the limit allows have been retired
after it. As long as it is, a cancellation of its id is refused once the task has ended, and if
it is accepted, the handle gave no outcome before and gives that of a cancelled task from then
on. -/
theorem canceller_and_reader_agree (limit : Nat) (before between : List Event) (id : String)
    (interrupt : Bool) :
    let c := (((new limit).run before).service.submit id).1.cell
    let es := before ++ .submit id :: between
    let w := (new limit).run es
    let past := (new limit).retirements es
    (w.service.records[id]? = some (.live c) ↔ c ∉ past.drop limit) ∧
    (c ∉ past.drop limit →
      (w.service.isTerminal c = true → (w.service.cancel id interrupt).1 = false) ∧
      ((w.service.cancel id interrupt).1 = true →
        (∀ k t, ((new limit).run (es.take k)).service.cell? c = some t → t.outcome? = none) ∧
        ∀ more, ∃ t, ((w.step (.cancel id interrupt)).run more).service.cell? c = some t ∧
          t.outcome? = some (.error .cancelled))) := by
  intro c es w past
  have named : w.idOf? c = some id := by
    have first := ((orderly_new limit).run before).idOf?_submit id
    have joined : w = (((new limit).run before).step (.submit id)).run between := run_append _ _ _
    rw [joined]
    exact idOf?_run first between
  obtain ⟨t, hc, -⟩ := Option.map_eq_some_iff.1 named
  have known := (recalls_run limit es).known_iff named
  refine ⟨known, fun kept => ?_⟩
  have cancel := cancel_of_cell (known.2 kept) hc interrupt
  refine ⟨fun ended => ?_, fun accepted => ⟨fun k u hu => ?_, fun more => ?_⟩⟩
  · have ended : t.state.isTerminal = true := by simpa [isTerminal, hc] using ended
    rw [cancel, ended]
    rfl
  · rw [cancel, Bool.not_eq_true'] at accepted
    have joined : w = ((new limit).run (es.take k)).run (es.drop k) := by
      rw [← run_append, List.take_append_drop]
    rw [joined] at hc
    exact outcome?_before hu hc accepted
  · rw [cancel, ← TaskCell.cancel_fst t interrupt] at accepted
    have cancelled := TaskCell.phase_cancel accepted
    refine outcome?_after ?_ cancelled more
    change (w.service.cancel id interrupt).2.cell? c = _
    rw [cancel, cell?_setCell hc, if_pos rfl]

/-- A task runs and is cancelled, after the only other one was retired. -/
theorem canceller_and_reader_agree_running :
    let w := (new 1).run [.submit "a", .grant 0, .start 0, .finish 0 (.ok .null), .retire 0,
      .submit "b", .grant 1, .start 1]
    (w.service.cancel "b" false).1 = true ∧
      ∃ t, ((w.step (.cancel "b" false)).run [.finish 1 (.ok .null)]).service.cell? 1 = some t ∧
        t.outcome? = some (.error .cancelled) := by
  have agree := (canceller_and_reader_agree 1 [.submit "a", .grant 0, .start 0,
    .finish 0 (.ok .null), .retire 0] [.grant 1, .start 1] "b" false).2 (by decide)
  exact ⟨by decide, (agree.2 (by decide)).2 [.finish 1 (.ok .null)]⟩

/-- A task completes and is forgotten when another one is retired; then its cancellation is
accepted, and the handle still gives the output. -/
theorem canceller_and_reader_differ :
    let w := (new 1).run [.submit "a", .grant 0, .start 0, .finish 0 (.ok .null), .retire 0,
      .submit "b", .grant 1, .start 1, .finish 1 (.ok .null), .retire 1]
    ((new 1).service.submit "a").1 = .fresh 0 ∧ (w.service.cancel "a" true).1 = true ∧
      ∃ t, (w.step (.cancel "a" true)).service.cell? 0 = some t ∧
        t.outcome? = some (.ok .null) :=
  ⟨rfl, by decide, _, rfl, rfl⟩

end Workshop

end DataGrid
