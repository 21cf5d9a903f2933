import DataGrid.Proofs.Task.Service

/-!
# Submitting against cancelling

The service and its workers, one step of any of them at a time and in any order. A submission
that is fresh starts a worker, which waits for a slot, is granted one, invokes the handler if the
task may begin, and brings back a result; when the task has ended it is retired. Main statement:
a handler is invoked once at most, a record gets one worker, and an id that was cancelled runs
nothing until its record is forgotten (`submit_cancel_race`).

A step joins actions that those of other threads may come between. `submit` joins the entry of a
record with the start of its worker, or with its retirement if the id was cancelled; `cancel` the
look-up of a record with the change of its cell, or the entry of a tombstone with its place in the
queue; `start` the change from submitted to running with the invocation of the handler, so that a
cancellation in between counts as one of a running task; and `retire` the place in the queue with
the removal of what is then too much.
-/

namespace DataGrid

/-- The service with what its workers have still to do and what they have done. -/
structure Workshop where
  service : TaskService
  /-- The cells that a worker was started for, the latest first. -/
  workers : List Nat := []
  /-- The cells whose worker waits for a slot. -/
  waiting : List Nat := []
  /-- The cells whose worker holds a slot and has not looked whether it may begin. -/
  granted : List Nat := []
  /-- The cells whose handler is at work. -/
  working : List Nat := []
  /-- The cells still to be retired. -/
  unretired : List Nat := []
  /-- The cells whose handler was invoked, the latest first. -/
  invoked : List Nat := []

namespace Workshop

inductive Event where
  | submit (id : String)
  | cancel (id : String) (interrupt : Bool)
  /-- A cancellation by a handle. -/
  | cancelCell (cell : Nat) (interrupt : Bool)
  | grant (cell : Nat)
  /-- A worker goes away before it has begun. -/
  | callOff (cell : Nat)
  | start (cell : Nat)
  | finish (cell : Nat) (result : Except GridError Json)
  | retire (cell : Nat)

def new (limit : Nat) : Workshop := { service := { finishedLimit := limit } }

/-- One step; a worker only takes the step it has come to. -/
def step (w : Workshop) : Event → Workshop
  | .submit id =>
    match w.service.submit id with
    | (.settled _, service) => { w with service }
    | (.fresh c, service) =>
      { w with
        service
        workers := c :: w.workers
        waiting := c :: w.waiting
        unretired := c :: w.unretired }
  | .cancel id interrupt => { w with service := (w.service.cancel id interrupt).2 }
  | .cancelCell c interrupt => { w with service := (w.service.cancelCell c interrupt).2 }
  | .grant c =>
    if c ∈ w.waiting then { w with waiting := w.waiting.erase c, granted := c :: w.granted } else w
  | .callOff c => { w with waiting := w.waiting.erase c, granted := w.granted.erase c }
  | .start c =>
    if c ∈ w.granted then
      let w := { w with granted := w.granted.erase c }
      match w.service.start c with
      | (true, service) =>
        { w with service, working := c :: w.working, invoked := c :: w.invoked }
      | (false, service) => { w with service }
    else w
  | .finish c r =>
    if c ∈ w.working then
      { w with service := w.service.finish c r, working := w.working.erase c }
    else w
  | .retire c =>
    match w.service.cell? c with
    | some t =>
      if t.state.isTerminal && c ∈ w.unretired then
        { w with service := w.service.retire t.id, unretired := w.unretired.erase c }
      else w
    | none => w

def run (w : Workshop) (es : List Event) : Workshop := es.foldl step w

/-- The id has a record, now and after each of the steps. -/
def Remembers (w : Workshop) (id : String) : List Event → Prop
  | [] => w.service.records[id]? ≠ none
  | e :: es => w.service.records[id]? ≠ none ∧ (w.step e).Remembers id es

instance decidableRemembers (id : String) :
    ∀ (es : List Event) (w : Workshop), Decidable (w.Remembers id es)
  | [], w => inferInstanceAs (Decidable (w.service.records[id]? ≠ none))
  | e :: es, w =>
    have := decidableRemembers id es (w.step e)
    inferInstanceAs (Decidable (w.service.records[id]? ≠ none ∧ (w.step e).Remembers id es))

def stateOf? (w : Workshop) (c : Nat) : Option TaskState := (w.service.cell? c).map (·.state)

def idOf? (w : Workshop) (c : Nat) : Option String := (w.service.cell? c).map (·.id)

open TaskService

variable {w v : Workshop} {e : Event} {es : List Event} {id : String} {c : Nat}

/-! ## One step -/

/-- What a step comes to. -/
inductive Moves (w : Workshop) : Event → Workshop → Prop
  | settled {id : String} {c : Nat} {service : TaskService}
      (h : w.service.submit id = (.settled c, service)) : Moves w (.submit id) { w with service }
  | fresh {id : String} {c : Nat} {service : TaskService}
      (h : w.service.submit id = (.fresh c, service)) :
      Moves w (.submit id) { w with
        service
        workers := c :: w.workers
        waiting := c :: w.waiting
        unretired := c :: w.unretired }
  | cancel (id : String) (interrupt : Bool) :
      Moves w (.cancel id interrupt) { w with service := (w.service.cancel id interrupt).2 }
  | cancelCell (c : Nat) (interrupt : Bool) :
      Moves w (.cancelCell c interrupt) { w with service := (w.service.cancelCell c interrupt).2 }
  | granted {c : Nat} (h : c ∈ w.waiting) :
      Moves w (.grant c) { w with waiting := w.waiting.erase c, granted := c :: w.granted }
  | calledOff (c : Nat) :
      Moves w (.callOff c) { w with waiting := w.waiting.erase c, granted := w.granted.erase c }
  | begun {c : Nat} {service : TaskService} (h : c ∈ w.granted)
      (admitted : w.service.start c = (true, service)) :
      Moves w (.start c) { w with
        service
        granted := w.granted.erase c
        working := c :: w.working
        invoked := c :: w.invoked }
  | refused {c : Nat} {service : TaskService} (h : c ∈ w.granted)
      (refused : w.service.start c = (false, service)) :
      Moves w (.start c) { w with service, granted := w.granted.erase c }
  | finished {c : Nat} (h : c ∈ w.working) (r : Except GridError Json) :
      Moves w (.finish c r) { w with
        service := w.service.finish c r, working := w.working.erase c }
  | retired {c : Nat} {t : TaskCell} (h : w.service.cell? c = some t)
      (ended : t.state.isTerminal = true) (due : c ∈ w.unretired) :
      Moves w (.retire c) { w with
        service := w.service.retire t.id, unretired := w.unretired.erase c }
  | idle (e : Event) : Moves w e w

theorem moves_step (w : Workshop) (e : Event) : w.Moves e (w.step e) := by
  cases e with
  | submit id =>
    simp only [step]
    split
    · next h => exact .settled h
    · next h => exact .fresh h
  | cancel id interrupt => exact .cancel id interrupt
  | cancelCell c interrupt => exact .cancelCell c interrupt
  | grant c =>
    simp only [step]
    split
    · next h => exact .granted h
    · exact .idle _
  | callOff c => exact .calledOff c
  | start c =>
    simp only [step]
    split
    · next h =>
      split
      · next admitted => exact .begun h admitted
      · next refused => exact .refused h refused
    · exact .idle _
  | finish c r =>
    simp only [step]
    split
    · next h => exact .finished h r
    · exact .idle _
  | retire c =>
    simp only [step]
    split
    · next h =>
      split
      · next due =>
        rw [Bool.and_eq_true, decide_eq_true_eq] at due
        exact .retired h due.1 due.2
      · exact .idle _
    · exact .idle _

theorem Moves.follows (h : w.Moves e v) : Follows w.service v.service := by
  cases h with
  | @settled id _ _ h | @fresh id _ _ h =>
    have f := follows_submit w.service id
    rwa [h] at f
  | cancel id interrupt => exact follows_cancel w.service id interrupt
  | cancelCell c interrupt => exact follows_cancelCell w.service c interrupt
  | @begun c _ _ start | @refused c _ _ start =>
    have f := follows_start w.service c
    rwa [start] at f
  | @finished c _ r => exact follows_finish w.service c r
  | retired => exact (Follows.refl _).forgets (forgets_retire _ _)
  | granted | calledOff | idle => exact .refl _

theorem Moves.sound (h : w.Moves e v) (sound : w.service.Sound) : v.service.Sound := by
  cases h with
  | @settled id _ _ h | @fresh id _ _ h =>
    have next := sound.submit id
    rwa [h] at next
  | cancel id interrupt => exact sound.cancel id interrupt
  | cancelCell c interrupt => exact sound.cancelCell c interrupt
  | @begun c _ _ start | @refused c _ _ start =>
    have next := sound.start c
    rwa [start] at next
  | @finished c _ r => exact sound.finish c r
  | retired => exact sound.forgets (forgets_retire _ _)
  | granted | calledOff | idle => exact sound

/-- A step starts a worker only for an id without a record, on a cell of its own. -/
theorem Moves.workers (h : w.Moves e v) :
    v.workers = w.workers ∨
      ∃ id c, w.service.records[id]? = none ∧ w.service.cell? c = none ∧
        v.workers = c :: w.workers ∧ v.idOf? c = some id := by
  cases h with
  | @fresh id _ service h =>
    obtain ⟨hr, rfl, hc⟩ := submit_fresh (congrArg Prod.fst h)
    rw [h] at hc
    exact .inr ⟨id, _, hr, by simp [cell?], rfl, by simp [idOf?, hc, TaskCell.new]⟩
  | _ => exact .inl rfl

/-- A step invokes a handler only by making its task run, which was submitted before. -/
theorem Moves.invoked (h : w.Moves e v) :
    v.invoked = w.invoked ∨
      ∃ c, v.invoked = c :: w.invoked ∧ w.stateOf? c = some .submitted ∧
        v.stateOf? c = some .running := by
  cases h with
  | @begun c service _ admitted =>
    obtain ⟨t, t', hc, submitted, hc', running⟩ := start_eq_true (congrArg Prod.fst admitted)
    rw [admitted] at hc'
    exact .inr ⟨c, rfl, by simp [stateOf?, hc, submitted], by simp [stateOf?, hc', running]⟩
  | _ => exact .inl rfl

theorem follows_step (w : Workshop) (e : Event) : Follows w.service (w.step e).service :=
  (moves_step w e).follows

theorem service_step_submit (w : Workshop) (id : String) :
    (w.step (.submit id)).service = (w.service.submit id).2 := by
  simp only [step]
  split
  · next h => rw [h]
  · next h => rw [h]

theorem idOf?_step {a : String} (h : w.idOf? c = some a) (e : Event) :
    (w.step e).idOf? c = some a := by
  obtain ⟨t, hc, rfl⟩ := Option.map_eq_some_iff.1 h
  obtain ⟨t', hc', later⟩ := (follows_step w e).cells c t hc
  simp [idOf?, hc', later.id]

/-! ## Runs -/

/-- What holds of a workshop at any time. -/
structure Orderly (w : Workshop) : Prop where
  sound : w.service.Sound
  workers : w.workers.Nodup
  known : ∀ c ∈ w.workers, w.idOf? c ≠ none
  invoked : w.invoked.Nodup
  begun : ∀ c ∈ w.invoked, ∃ t, w.service.cell? c = some t ∧ t.state ≠ .submitted

theorem orderly_new (limit : Nat) : (new limit).Orderly :=
  ⟨sound_empty limit, .nil, by simp [new], .nil, by simp [new]⟩

theorem Orderly.step (h : w.Orderly) (e : Event) : (w.step e).Orderly where
  sound := (moves_step w e).sound h.sound
  workers := by
    rcases (moves_step w e).workers with same | ⟨id, c, -, unused, new, -⟩
    · rw [same]
      exact h.workers
    · rw [new]
      refine List.nodup_cons.2 ⟨fun hc => h.known c hc ?_, h.workers⟩
      simp [idOf?, unused]
  known := by
    have kept : ∀ c ∈ w.workers, (w.step e).idOf? c ≠ none := by
      intro c hc
      obtain ⟨a, ha⟩ := Option.ne_none_iff_exists'.1 (h.known c hc)
      simp [idOf?_step ha e]
    rcases (moves_step w e).workers with same | ⟨id, c, -, -, new, named⟩
    · rw [same]
      exact kept
    · rw [new]
      intro d hd
      rcases List.mem_cons.1 hd with rfl | hd
      · simp [named]
      · exact kept d hd
  invoked := by
    rcases (moves_step w e).invoked with same | ⟨c, new, submitted, -⟩
    · rw [same]
      exact h.invoked
    · rw [new]
      refine List.nodup_cons.2 ⟨fun hc => ?_, h.invoked⟩
      obtain ⟨t, ht, begun⟩ := h.begun c hc
      exact begun (by simpa [stateOf?, ht] using submitted)
  begun := by
    have kept : ∀ c ∈ w.invoked, ∃ t, (w.step e).service.cell? c = some t ∧
        t.state ≠ .submitted := by
      intro c hc
      obtain ⟨t, ht, begun⟩ := h.begun c hc
      obtain ⟨t', ht', later⟩ := (follows_step w e).cells c t ht
      exact ⟨t', ht', later.begun begun⟩
    rcases (moves_step w e).invoked with same | ⟨c, new, -, running⟩
    · rw [same]
      exact kept
    · rw [new]
      intro d hd
      rcases List.mem_cons.1 hd with rfl | hd
      · obtain ⟨t, ht, runs⟩ := Option.map_eq_some_iff.1 running
        exact ⟨t, ht, by simp [runs]⟩
      · exact kept d hd

theorem Orderly.run (h : w.Orderly) (es : List Event) : (w.run es).Orderly := by
  induction es generalizing w with
  | nil => exact h
  | cons e es ih => exact ih (h.step e)

theorem run_append (w : Workshop) (es fs : List Event) : w.run (es ++ fs) = (w.run es).run fs :=
  List.foldl_append

/-- A run only moves a cell forward. -/
theorem later_run {t : TaskCell} (hc : w.service.cell? c = some t) (es : List Event) :
    ∃ t', (w.run es).service.cell? c = some t' ∧ t.Later t' := by
  induction es generalizing w t with
  | nil => exact ⟨t, hc, .refl t⟩
  | cons e es ih =>
    obtain ⟨t', hc', later⟩ := (follows_step w e).cells c t hc
    obtain ⟨t'', hc'', later'⟩ := ih hc'
    exact ⟨t'', hc'', later.trans later'⟩

theorem idOf?_run {a : String} (h : w.idOf? c = some a) (es : List Event) :
    (w.run es).idOf? c = some a := by
  induction es generalizing w with
  | nil => exact h
  | cons e es ih => exact ih (idOf?_step h e)

theorem Remembers.now (h : w.Remembers id es) : w.service.records[id]? ≠ none := by
  cases es with
  | nil => exact h
  | cons e es => exact h.1

/-! ## While a record is kept -/

/-- A live record that is kept goes on naming its cell. -/
theorem Remembers.live (h : w.Remembers id es) (hr : w.service.records[id]? = some (.live c)) :
    (w.run es).service.records[id]? = some (.live c) := by
  induction es generalizing w with
  | nil => exact hr
  | cons e es ih =>
    exact ih h.2 (((follows_step w e).live id c hr).resolve_right h.2.now)

theorem Remembers.barred (h : w.Remembers id es) (barred : w.service.Barred id) :
    (w.run es).service.Barred id := by
  induction es generalizing w with
  | nil => exact barred
  | cons e es ih => exact ih h.2 (barred.follows (follows_step w e) h.2.now)

/-- No worker is started for an id that has a record. -/
theorem Remembers.workers (h : w.Remembers id es) :
    ∀ c ∈ (w.run es).workers, c ∉ w.workers → (w.run es).idOf? c ≠ some id := by
  induction es generalizing w with
  | nil => exact fun c hc old => absurd hc old
  | cons e es ih =>
    intro c hc old
    by_cases first : c ∈ (w.step e).workers
    · rcases (moves_step w e).workers with same | ⟨a, d, hr, -, new, named⟩
      · exact absurd (same ▸ first) old
      · obtain rfl := (List.mem_cons.1 (new ▸ first)).resolve_right old
        have other : a ≠ id := fun e => h.1 (e ▸ hr)
        have later : (w.run (e :: es)).idOf? c = some a := idOf?_run (w := w.step e) named es
        simpa [later] using other
    · exact ih h.2 c hc first

/-- No handler is invoked for an id that is barred. -/
theorem Remembers.invoked (h : w.Remembers id es) (orderly : w.Orderly)
    (barred : w.service.Barred id) :
    ∀ c ∈ (w.run es).invoked, c ∉ w.invoked → (w.run es).idOf? c ≠ some id := by
  induction es generalizing w with
  | nil => exact fun c hc old => absurd hc old
  | cons e es ih =>
    intro c hc old
    by_cases first : c ∈ (w.step e).invoked
    · rcases (moves_step w e).invoked with same | ⟨d, new, submitted, -⟩
      · exact absurd (same ▸ first) old
      · obtain rfl := (List.mem_cons.1 (new ▸ first)).resolve_right old
        obtain ⟨t, ht, submitted⟩ := Option.map_eq_some_iff.1 submitted
        have other : t.id ≠ id := fun named => barred.not_submitted orderly.sound ht named submitted
        have named : w.idOf? c = some t.id := by simp [idOf?, ht]
        have later : (w.run (e :: es)).idOf? c = some t.id := idOf?_run named (e :: es)
        simpa [later] using other
    · exact ih h.2 (orderly.step e) (barred.follows (follows_step w e) h.2.now) c hc first

/-- A handler is invoked once at most for a cell, by the step that makes its submitted task run.
While a live record is kept, submitting its id gives its cell and starts no worker. From an
accepted cancellation on, while the record of its id is kept, no handler of that id is invoked,
submitting it gives a cancelled task, and whoever asks sees a cancelled task or, of a tombstone,
nothing. -/
theorem submit_cancel_race (limit : Nat) (past : List Event) :
    let w := (new limit).run past
    (w.invoked.Nodup ∧ ∀ e, ∀ c ∈ (w.step e).invoked, c ∉ w.invoked →
      w.stateOf? c = some .submitted ∧ (w.step e).stateOf? c = some .running) ∧
    (w.workers.Nodup ∧ ∀ id c es, w.service.handle? id = some c → w.Remembers id es →
      let v := w.run es
      (v.service.submit id).1 = .settled c ∧ v.step (.submit id) = v ∧
        ∀ d ∈ v.workers, d ∉ w.workers → v.idOf? d ≠ some id) ∧
    ∀ id interrupt es, (w.service.cancel id interrupt).1 = true →
      (w.step (.cancel id interrupt)).Remembers id es →
      let v := (w.step (.cancel id interrupt)).run es
      (∀ c ∈ v.invoked, c ∉ w.invoked → v.idOf? c ≠ some id) ∧
      ((v.step (.submit id)).idOf? (v.service.submit id).1.cell = some id ∧
        (v.step (.submit id)).stateOf? (v.service.submit id).1.cell = some .cancelled) ∧
      (v.service.records[id]? = some .tombstone ∧ v.service.snapshot? id = none ∨
        ∃ t, v.service.snapshot? id = some t ∧ t.state = .cancelled ∧
          t.outcome? = some (.error .cancelled)) := by
  intro w
  have orderly : w.Orderly := (orderly_new limit).run past
  refine ⟨⟨orderly.invoked, fun e c hc old => ?_⟩, ⟨orderly.workers, ?_⟩, ?_⟩
  · rcases (moves_step w e).invoked with same | ⟨d, new, submitted, running⟩
    · exact absurd (same ▸ hc) old
    · obtain rfl := (List.mem_cons.1 (new ▸ hc)).resolve_right old
      exact ⟨submitted, running⟩
  · intro id c es handle kept v
    have hr : w.service.records[id]? = some (.live c) := by
      unfold handle? at handle
      split at handle <;> grind
    have hv : v.service.submit id = (.settled c, v.service) := by
      simp [submit, kept.live hr, v]
    exact ⟨by rw [hv], by simp [step, hv], kept.workers⟩
  · intro id interrupt es accepted kept v
    have barred : (w.step (.cancel id interrupt)).service.Barred id :=
      barred_cancel accepted kept.now
    have still : v.service.Barred id := kept.barred barred
    have orderly' : v.Orderly := (orderly.step _).run es
    refine ⟨kept.invoked (orderly.step _) barred, ?_, ?_⟩
    · obtain ⟨c, t, settled, hc, named, cancelled⟩ := still.submit orderly'.sound
      have after : (v.step (.submit id)).service = (v.service.submit id).2 := by
        simp only [step]
        split <;> grind
      simp [settled, Submission.cell, idOf?, stateOf?, after, hc, named, TaskCell.state, cancelled,
        Phase.state]
    · rcases still.snapshot with tombstone | ⟨t, ht, cancelled⟩
      · exact .inl tombstone
      · refine .inr ⟨t, ht, ?_, ?_⟩
        · simp [TaskCell.state, cancelled, Phase.state]
        · simp [TaskCell.outcome?, cancelled, Phase.outcome?]

/-- The task is cancelled while its handler is at work, which then comes back with a result. -/
theorem submit_cancel_race_working :
    let w := (new 5).run [.submit "a", .grant 0, .start 0]
    let v := (w.step (.cancel "a" false)).run [.finish 0 (.ok .null), .retire 0, .submit "a"]
    w.invoked = [0] ∧ v.invoked = [0] ∧ v.workers = [0] ∧
      ∃ t, v.service.snapshot? "a" = some t ∧ t.state = .cancelled ∧
        t.outcome? = some (.error .cancelled) := by
  have race := (submit_cancel_race 5 [.submit "a", .grant 0, .start 0]).2.2 "a" false
    [.finish 0 (.ok .null), .retire 0, .submit "a"] (by decide)
    (by decide)
  exact ⟨by decide, by decide, by decide, race.2.2.resolve_left fun h => absurd h.1 (by decide)⟩

end Workshop

end DataGrid
