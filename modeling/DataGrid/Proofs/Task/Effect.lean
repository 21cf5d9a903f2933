import DataGrid.Proofs.Task.Race
import DataGrid.Proofs.Task.Records

/-!
# Effects of a step

What a step of the service and its workers does to records and queues: it may retire one task
and record one tombstone. Main statements: each step has one of five effects (`effect_step`), and
a tombstone goes when its id is submitted or leaves the queue (`Effect.tombstone`).
-/

namespace DataGrid

namespace Workshop

open TaskService

variable {w : Workshop} {e : Event} {retired : Option Nat} {buried : Option String}
  {s : TaskService} {due : List Nat} {id : String} {c : Nat}

/-! ## What a step notes -/

/-- The cell whose task a step retires. -/
def retires? (w : Workshop) : Event → Option Nat
  | .submit id =>
    if w.service.records[id]? = some .tombstone then some w.service.cells.length else none
  | .retire c => if w.service.isTerminal c && c ∈ w.unretired then some c else none
  | _ => none

/-- The id that a step records a tombstone for. -/
def buries? (w : Workshop) : Event → Option String
  | .cancel id _ => if w.service.records[id]? = none then some id else none
  | _ => none

/-- What a step does to the records, the cell that it retires and the id that it buries. -/
inductive Effect (w : Workshop) :
    Event → Option Nat → Option String → TaskService → List Nat → Prop
  /-- Only cells move on; a submission that does no more meets no tombstone. -/
  | works {e : Event} {s : TaskService} (h : Works w.service s)
      (kept : ∀ id, e = .submit id → w.service.records[id]? ≠ some .tombstone) :
      Effect w e none none s w.unretired
  | registers {id : String} (h : w.service.records[id]? = none) :
      Effect w (.submit id) none none (w.service.register (.new id)).2
        (w.service.cells.length :: w.unretired)
  | unearths {id : String} (h : w.service.records[id]? = some .tombstone) :
      Effect w (.submit id) (some w.service.cells.length) none
        ((w.service.register (.newCancelled id)).2.retire id) w.unretired
  | buries {id : String} {interrupt : Bool} (h : w.service.records[id]? = none) :
      Effect w (.cancel id interrupt) none (some id) (w.service.bury id) w.unretired
  | retires {c : Nat} {t : TaskCell} (hc : w.service.cell? c = some t)
      (ended : t.state.isTerminal = true) (due : c ∈ w.unretired) :
      Effect w (.retire c) (some c) none (w.service.retire t.id) (w.unretired.erase c)

/-- Every step has one of the effects, with what it notes. -/
theorem effect_step (w : Workshop) (e : Event) :
    w.Effect e (w.retires? e) (w.buries? e) (w.step e).service (w.step e).unretired := by
  cases e with
  | submit id =>
    cases hr : w.service.records[id]? with
    | none => simpa [retires?, buries?, step, hr, submit_of_none hr] using Effect.registers hr
    | some r =>
      cases r with
      | tombstone =>
        simpa [retires?, buries?, step, hr, submit_of_tombstone hr] using Effect.unearths hr
      | live c =>
        simp only [retires?, buries?, step, hr, submit_of_live hr]
        refine .works (.refl _) ?_
        rintro _ ⟨⟩
        simp [hr]
  | cancel id interrupt =>
    cases hr : w.service.records[id]? with
    | none => simpa [retires?, buries?, step, hr, cancel_of_none hr] using Effect.buries hr
    | some r =>
      simp only [retires?, buries?, step, hr, reduceCtorEq, if_false]
      refine .works ?_ (by simp)
      cases r with
      | tombstone => simpa [cancel_of_tombstone hr] using Works.refl w.service
      | live c => simpa [cancel_of_live hr] using works_cancelCell w.service c interrupt
  | cancelCell c interrupt => exact .works (works_cancelCell w.service c interrupt) (by simp)
  | grant c =>
    simp only [step]
    split <;> exact .works (.refl _) (by simp)
  | callOff c => exact .works (.refl _) (by simp)
  | start c =>
    have begun := works_start w.service c
    simp only [step]
    split
    · split
      · next h => exact .works (by rwa [h] at begun) (by simp)
      · next h => exact .works (by rwa [h] at begun) (by simp)
    · exact .works (.refl _) (by simp)
  | finish c r =>
    simp only [step]
    split
    · exact .works (works_finish w.service c r) (by simp)
    · exact .works (.refl _) (by simp)
  | retire c =>
    rcases Option.eq_none_or_eq_some (w.service.cell? c) with hc | ⟨t, hc⟩
    · simp only [retires?, buries?, step, isTerminal, hc]
      exact .works (.refl _) (by simp)
    · simp only [retires?, buries?, step, isTerminal, hc, Option.any_some]
      split
      · next due =>
        rw [Bool.and_eq_true, decide_eq_true_eq] at due
        exact .retires hc due.1 due.2
      · exact .works (.refl _) (by simp)

/-! ## Queues and records after a step -/

theorem Effect.bounded (h : w.Effect e retired buried s due) (bounded : w.service.Bounded) :
    s.Bounded := by
  cases h with
  | works h => exact bounded.works h
  | registers => exact bounded.register _
  | unearths => exact (bounded.register _).retire _
  | buries => exact bounded.bury _
  | retires => exact bounded.retire _

theorem Effect.limit (h : w.Effect e retired buried s due) (bounded : w.service.Bounded) :
    s.finishedLimit = w.service.finishedLimit := by
  cases h with
  | works h =>
    obtain ⟨cells, -, rfl, -⟩ := h
    rfl
  | registers => rfl
  | unearths =>
    rw [retire_eq (bounded.register _).finished]
    rfl
  | buries =>
    obtain ⟨records, eq⟩ := bury_eq bounded _
    rw [eq]
  | retires => rw [retire_eq bounded.finished]

/-- Submitting an id uses its tombstone up, and burying one may drop another. -/
theorem Effect.tombstone (h : w.Effect e retired buried s due) (bounded : w.service.Bounded)
    (a : String) : s.records[a]? = some .tombstone ↔
      (buried = some a ∨ w.service.records[a]? = some .tombstone) ∧ e ≠ .submit a ∧
        (buried.toList ++ w.service.tombstones)[tombstoneLimit]? ≠ some a := by
  -- without a burial the queue does not move, and nothing stands beyond its limit
  have inside : w.service.tombstones[tombstoneLimit]? = none :=
    List.getElem?_eq_none bounded.tombstones
  cases h with
  | works h kept =>
    obtain ⟨cells, -, rfl, -⟩ := h
    have unsubmitted (hr : w.service.records[a]? = some .tombstone) : e ≠ .submit a :=
      fun he => kept a he hr
    simpa [inside] using unsubmitted
  | @registers id h =>
    rw [records_register]
    by_cases same : id = a
    · subst same
      simp [TaskCell.new]
    · simp [TaskCell.new, same, inside]
  | @unearths id h =>
    rw [tombstone_retire (bounded.register _), records_register]
    by_cases same : id = a
    · subst same
      simp [TaskCell.newCancelled]
    · simp [TaskCell.newCancelled, same, inside]
  | @buries id _ h =>
    rw [tombstone_bury bounded]
    simp
  | @retires c t =>
    rw [tombstone_retire bounded]
    simp [inside]

/-- The queue takes up the id that is buried. -/
theorem Effect.tombstones (h : w.Effect e retired buried s due) (bounded : w.service.Bounded) :
    s.tombstones = (buried.toList ++ w.service.tombstones).take tombstoneLimit := by
  have all : w.service.tombstones = w.service.tombstones.take tombstoneLimit :=
    (List.take_of_length_le bounded.tombstones).symm
  cases h with
  | works h =>
    obtain ⟨cells, -, rfl, -⟩ := h
    exact all
  | registers h => exact all
  | unearths h =>
    rw [retire_eq (bounded.register _).finished]
    exact all
  | buries h =>
    obtain ⟨records, eq⟩ := bury_eq bounded _
    rw [eq]
    rfl
  | retires =>
    rw [retire_eq bounded.finished]
    exact all

/-- A task comes on record by its submission only. -/
theorem Effect.live (h : w.Effect e retired buried s due) (bounded : w.service.Bounded)
    (unsubmitted : e ≠ .submit id) (hr : s.records[id]? = some (.live c)) :
    w.service.records[id]? = some (.live c) := by
  cases h with
  | works h =>
    obtain ⟨cells, -, rfl, -⟩ := h
    exact hr
  | registers =>
    rw [records_register, if_neg (by rintro rfl; exact unsubmitted rfl)] at hr
    exact hr
  | unearths =>
    have known := (forgets_retire _ _).known hr
    rw [records_register, if_neg (by rintro rfl; exact unsubmitted rfl)] at known
    exact known
  | buries h => exact (live_bury bounded h id c).1 hr
  | retires => exact (forgets_retire _ _).known hr

/-- An id without a task has none before it is submitted. -/
theorem Effect.not_live (h : w.Effect e retired buried s due) (bounded : w.service.Bounded)
    (before : ∀ c, w.service.records[id]? ≠ some (.live c)) (unsubmitted : e ≠ .submit id) :
    s.records[id]? = none ∨ s.records[id]? = some .tombstone := by
  cases after : s.records[id]? with
  | none => exact .inl rfl
  | some r =>
    cases r with
    | live c => exact absurd (h.live bounded unsubmitted after) (before c)
    | tombstone => exact .inr rfl

end Workshop

end DataGrid
