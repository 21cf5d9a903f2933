import DataGrid.Proofs.Task.Service

/-!
# Records and queues

What the operations of the service do to the records and to the two queues of ids, as equations.
Main statements: retiring a task takes at most the record of the id beyond the limit
(`records_retire`), and so does a new tombstone (`records_bury`), which may drop a newer tombstone
of that id (`tombstone_bury`).
-/

namespace DataGrid

namespace TaskService

variable {s s' : TaskService} {c : Nat} {t : TaskCell} {id : String}

/-! ## Queues -/

/-- A queue holds the latest ids up to its limit, and the one beyond the limit leaves it. -/
theorem enqueue_eq {limit : Nat} {queue : List String} (h : queue.length ≤ limit) (id : String) :
    enqueue limit queue id = ((id :: queue)[limit]?, (id :: queue).take limit) := by
  unfold enqueue
  split
  · next room =>
    have short : (id :: queue).length ≤ limit := room
    rw [List.getElem?_eq_none short, List.take_of_length_le short]
  · next full =>
    obtain rfl : queue.length = limit := by omega
    rw [List.getLast?_eq_getElem?, List.dropLast_eq_take]
    rfl

theorem evictFinished_eq (s : TaskService) (id : String) :
    s.evictFinished id = { s with
      records := if (s.handle? id).any s.isTerminal then s.records.erase id else s.records } := by
  unfold evictFinished handle?
  cases s.records[id]? with
  | none => rfl
  | some r =>
    cases r with
    | tombstone => rfl
    | live c => by_cases ended : s.isTerminal c = true <;> simp [ended]

theorem evictTombstone_eq (s : TaskService) (id : String) :
    s.evictTombstone id = { s with
      records := if s.records[id]? = some .tombstone then s.records.erase id else s.records } := by
  unfold evictTombstone
  cases s.records[id]? with
  | none => rfl
  | some r => cases r <;> rfl

theorem retire_eq (h : s.finished.length ≤ s.finishedLimit) (id : String) :
    s.retire id = { s with
      finished := (id :: s.finished).take s.finishedLimit
      records := ((id :: s.finished)[s.finishedLimit]?).elim s.records fun old =>
        if (s.handle? old).any s.isTerminal then s.records.erase old else s.records } := by
  unfold retire
  rw [enqueue_eq h]
  cases (id :: s.finished)[s.finishedLimit]? with
  | none => rfl
  | some old => exact evictFinished_eq _ old

theorem rememberTombstone_eq (h : s.tombstones.length ≤ tombstoneLimit) (id : String) :
    s.rememberTombstone id = { s with
      tombstones := (id :: s.tombstones).take tombstoneLimit
      records := ((id :: s.tombstones)[tombstoneLimit]?).elim s.records fun old =>
        if s.records[old]? = some .tombstone then s.records.erase old else s.records } := by
  unfold rememberTombstone
  rw [enqueue_eq h]
  cases (id :: s.tombstones)[tombstoneLimit]? with
  | none => rfl
  | some old => exact evictTombstone_eq _ old

/-- Of all records only the one that is beyond the limit may be gone. -/
theorem getElem?_elim_erase (records : Std.TreeMap String TaskRecord) (beyond : Option String)
    (p : String → Prop) [DecidablePred p] (a : String) :
    (beyond.elim records fun old => if p old then records.erase old else records)[a]? =
      if beyond = some a ∧ p a then none else records[a]? := by
  cases beyond with
  | none => simp
  | some old =>
    by_cases same : old = a
    · subst same
      by_cases gone : p old <;> simp [gone]
    · by_cases gone : p old <;> simp [gone, same, Std.TreeMap.getElem?_erase]

theorem records_retire (h : s.finished.length ≤ s.finishedLimit) (id a : String) :
    (s.retire id).records[a]? =
      if (id :: s.finished)[s.finishedLimit]? = some a ∧ (s.handle? a).any s.isTerminal = true
      then none else s.records[a]? := by
  rw [retire_eq h]
  exact getElem?_elim_erase s.records _ (fun a => (s.handle? a).any s.isTerminal = true) a

theorem records_rememberTombstone (h : s.tombstones.length ≤ tombstoneLimit) (id a : String) :
    (s.rememberTombstone id).records[a]? =
      if (id :: s.tombstones)[tombstoneLimit]? = some a ∧ s.records[a]? = some .tombstone
      then none else s.records[a]? := by
  rw [rememberTombstone_eq h]
  exact getElem?_elim_erase s.records _ (fun a => s.records[a]? = some .tombstone) a

/-- What is still on record has not changed. -/
theorem Forgets.known {r : TaskRecord} (f : Forgets s s') (hr : s'.records[id]? = some r) :
    s.records[id]? = some r := by
  rcases f.records id with same | ⟨gone, -⟩
  · rw [← same, hr]
  · rw [gone] at hr
    cases hr

theorem handle?_eq_some : s.handle? id = some c ↔ s.records[id]? = some (.live c) := by
  unfold handle?
  split <;> grind

/-! ## What an operation comes to -/

theorem submit_of_live (h : s.records[id]? = some (.live c)) : s.submit id = (.settled c, s) := by
  simp [submit, h]

theorem submit_of_tombstone (h : s.records[id]? = some .tombstone) :
    s.submit id =
      (.settled s.cells.length, (s.register (.newCancelled id)).2.retire id) := by
  simp [submit, h, register]

theorem submit_of_none (h : s.records[id]? = none) :
    s.submit id = (.fresh s.cells.length, (s.register (.new id)).2) := by
  simp [submit, h, register]

theorem cancel_of_live (h : s.records[id]? = some (.live c)) (interrupt : Bool) :
    s.cancel id interrupt = s.cancelCell c interrupt := by
  simp [cancel, h]

theorem cancel_of_tombstone (h : s.records[id]? = some .tombstone) (interrupt : Bool) :
    s.cancel id interrupt = (true, s) := by
  simp [cancel, h]

/-- Records a tombstone. -/
def bury (s : TaskService) (id : String) : TaskService :=
  { s with records := s.records.insert id .tombstone }.rememberTombstone id

theorem cancel_of_none (h : s.records[id]? = none) (interrupt : Bool) :
    s.cancel id interrupt = (true, s.bury id) := by
  simp [cancel, h, bury]

/-- Some cells have moved on, and nothing else has changed. -/
def Works (s s' : TaskService) : Prop :=
  ∃ cells, cells.length = s.cells.length ∧ s' = { s with cells } ∧
    ∀ c t, s.cell? c = some t → ∃ t', s'.cell? c = some t' ∧ t.Later t'

theorem Works.refl (s : TaskService) : Works s s := ⟨s.cells, rfl, rfl, (Follows.refl s).cells⟩

theorem works_setCell {t' : TaskCell} (hc : s.cell? c = some t) (later : t.Later t') :
    Works s (s.setCell c t') :=
  ⟨_, List.length_set, rfl, (follows_setCell hc later).cells⟩

theorem works_cancelCell (s : TaskService) (c : Nat) (interrupt : Bool) :
    Works s (s.cancelCell c interrupt).2 := by
  unfold cancelCell
  split
  · next hc => exact works_setCell hc (TaskCell.later_cancel _ _)
  · exact .refl s

theorem works_start (s : TaskService) (c : Nat) : Works s (s.start c).2 := by
  unfold start
  split
  · next hc => exact works_setCell hc (TaskCell.later_start _)
  · exact .refl s

theorem works_finish (s : TaskService) (c : Nat) (r : Except GridError Json) :
    Works s (s.finish c r) := by
  unfold finish
  split
  · next hc => exact works_setCell hc (TaskCell.later_finish _ _)
  · exact .refl s

/-! ## Room in the queues -/

/-- Neither queue is beyond its limit. -/
structure Bounded (s : TaskService) : Prop where
  finished : s.finished.length ≤ s.finishedLimit
  tombstones : s.tombstones.length ≤ tombstoneLimit

theorem Bounded.works (h : s.Bounded) (works : Works s s') : s'.Bounded := by
  obtain ⟨cells, -, rfl, -⟩ := works
  exact ⟨h.finished, h.tombstones⟩

theorem Bounded.register (h : s.Bounded) (t : TaskCell) : (s.register t).2.Bounded :=
  ⟨h.finished, h.tombstones⟩

theorem Bounded.retire (h : s.Bounded) (id : String) : (s.retire id).Bounded := by
  rw [retire_eq h.finished]
  exact ⟨List.length_take_le _ _, h.tombstones⟩

/-- With one more id the queue of tombstones is beyond its limit by one at most. -/
theorem Bounded.length_buried (h : s.Bounded) (buried : Option String) :
    (buried.toList ++ s.tombstones).length ≤ tombstoneLimit + 1 := by
  have room := h.tombstones
  cases buried with
  | none => simp only [Option.toList_none, List.nil_append]; omega
  | some b => simp only [Option.toList_some, List.singleton_append, List.length_cons]; omega

theorem bury_eq (h : s.Bounded) (id : String) :
    ∃ records, s.bury id =
      { s with records, tombstones := (id :: s.tombstones).take tombstoneLimit } :=
  ⟨_, rememberTombstone_eq (s := { s with records := s.records.insert id .tombstone })
    h.tombstones id⟩

theorem Bounded.bury (h : s.Bounded) (id : String) : (s.bury id).Bounded := by
  obtain ⟨records, eq⟩ := bury_eq h id
  rw [eq]
  exact ⟨h.finished, List.length_take_le _ _⟩

theorem records_bury (h : s.Bounded) (id a : String) :
    (s.bury id).records[a]? =
      if (id :: s.tombstones)[tombstoneLimit]? = some a ∧
        (id = a ∨ s.records[a]? = some .tombstone) then none
      else if id = a then some .tombstone else s.records[a]? := by
  have buried := records_rememberTombstone
    (s := { s with records := s.records.insert id .tombstone }) h.tombstones id a
  rw [bury, buried]
  by_cases same : id = a <;> simp [Std.TreeMap.getElem?_insert, same]

/-- A tombstone is forgotten when its id is beyond the limit, wherever in the queue that id may
stand as well. -/
theorem tombstone_bury (h : s.Bounded) (id a : String) :
    (s.bury id).records[a]? = some .tombstone ↔
      (id = a ∨ s.records[a]? = some .tombstone) ∧
        (id :: s.tombstones)[tombstoneLimit]? ≠ some a := by
  rw [records_bury h]
  grind

theorem live_bury (h : s.Bounded) (hr : s.records[id]? = none) (a : String) (c : Nat) :
    (s.bury id).records[a]? = some (.live c) ↔ s.records[a]? = some (.live c) := by
  rw [records_bury h]
  grind

theorem tombstone_retire (h : s.Bounded) (id a : String) :
    (s.retire id).records[a]? = some .tombstone ↔ s.records[a]? = some .tombstone := by
  rw [records_retire h.finished]
  split
  · next gone =>
    have ended := gone.2
    refine iff_of_false (by simp) fun ht => ?_
    simp [handle?, ht] at ended
  · rfl

end TaskService

end DataGrid
