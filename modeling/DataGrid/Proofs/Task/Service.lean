import DataGrid.Task.Service

/-!
# What the task service keeps

A cell only moves forward, and a record is taken away only from a task that has ended or from a
tombstone. Main statements: every operation of the service is such a change (`Follows`), and
keeps it so that whatever has not ended is on record under its id (`Sound`).
-/

namespace DataGrid

/-! ## Cells -/

namespace TaskCell

/-- What may become of a cell: it does not go back, and an end is for good. -/
structure Later (t t' : TaskCell) : Prop where
  id : t'.id = t.id
  ended : t.state.isTerminal = true → t'.phase = t.phase
  begun : t.state ≠ .submitted → t'.state ≠ .submitted
  fired : t.fired = true → t'.fired = true

theorem Later.refl (t : TaskCell) : t.Later t := ⟨rfl, fun _ => rfl, fun h => h, fun h => h⟩

theorem Later.trans {t t' t'' : TaskCell} (h : t.Later t') (g : t'.Later t'') : t.Later t'' where
  id := g.id.trans h.id
  ended ended := by
    have same := h.ended ended
    have ended' : t'.state.isTerminal = true := by rwa [state, same]
    exact (g.ended ended').trans same
  begun := g.begun ∘ h.begun
  fired := g.fired ∘ h.fired

theorem later_start (t : TaskCell) : t.Later t.start.2 := by
  obtain ⟨id, phase, fired⟩ := t
  cases phase <;>
    exact ⟨rfl, by simp [state, start, Phase.state, TaskState.isTerminal],
      by simp [state, start, Phase.state], fun h => h⟩

theorem later_finish (t : TaskCell) (r : Except GridError Json) : t.Later (t.finish r) := by
  have left : (Phase.ofResult r).state ≠ .submitted := by
    unfold Phase.ofResult
    split <;> simp [Phase.state]
  obtain ⟨id, phase, fired⟩ := t
  cases phase with
  | running => exact ⟨rfl, (nomatch ·), fun _ => left, fun h => h⟩
  | _ => exact ⟨rfl, fun _ => rfl, fun h => h, fun h => h⟩

theorem later_cancel (t : TaskCell) (interrupt : Bool) : t.Later (t.cancel interrupt).2 := by
  obtain ⟨id, phase, fired⟩ := t
  cases phase <;>
    exact ⟨rfl, by simp [state, cancel, Phase.state, TaskState.isTerminal],
      by simp [state, cancel, Phase.state], fun h => by grind [cancel]⟩

theorem start_eq_true {t : TaskCell} (h : t.start.1 = true) :
    t.state = .submitted ∧ t.start.2.state = .running := by
  obtain ⟨id, phase, fired⟩ := t
  cases phase with
  | submitted => exact ⟨rfl, rfl⟩
  | _ => exact absurd h (by simp [start])

theorem phase_cancel {t : TaskCell} {interrupt : Bool} (h : (t.cancel interrupt).1 = true) :
    (t.cancel interrupt).2.phase = .cancelled := by
  obtain ⟨id, phase, fired⟩ := t
  cases phase with
  | submitted | running => rfl
  | _ => exact absurd h (by simp [cancel])

/-- Only a task that has not ended can be cancelled. -/
theorem cancel_fst (t : TaskCell) (interrupt : Bool) :
    (t.cancel interrupt).1 = !t.state.isTerminal := by
  obtain ⟨id, phase, fired⟩ := t
  cases phase <;> rfl

theorem isTerminal_of_cancelled {t : TaskCell} (h : t.phase = .cancelled) :
    t.state.isTerminal = true := by
  simp [state, h, Phase.state, TaskState.isTerminal]

end TaskCell

namespace TaskService

variable {s s' s'' : TaskService} {c : Nat} {t t' : TaskCell} {id : String}

theorem cell?_setCell (h : s.cell? c = some t) (d : Nat) :
    (s.setCell c t').cell? d = if d = c then some t' else s.cell? d := by
  obtain ⟨hc, -⟩ := List.getElem?_eq_some_iff.1 h
  simp only [cell?, setCell, List.getElem?_set, hc, if_true]
  split
  · grind
  · grind

theorem cell?_register (d : Nat) :
    (s.register t).2.cell? d = if d = s.cells.length then some t else s.cell? d := by
  simp only [cell?, register, List.getElem?_append]
  split
  · rw [if_neg (by omega)]
  · next h =>
    split
    · next e => simp [e]
    · rw [List.getElem?_eq_none (by simp; omega), List.getElem?_eq_none (by omega)]

theorem records_register (id : String) :
    (s.register t).2.records[id]? =
      if t.id = id then some (.live s.cells.length) else s.records[id]? := by
  simp [register, Std.TreeMap.getElem?_insert]

/-! ## Forgetting -/

/-- Of some ended tasks and tombstones the records are gone; nothing else has changed. -/
structure Forgets (s s' : TaskService) : Prop where
  cells : s'.cells = s.cells
  records : ∀ id : String, s'.records[id]? = s.records[id]? ∨
    s'.records[id]? = none ∧ ∀ c, s.records[id]? = some (.live c) → s.isTerminal c = true

theorem Forgets.cell? (h : Forgets s s') (c : Nat) : s'.cell? c = s.cell? c := by
  simp [TaskService.cell?, h.cells]

theorem forgets_evictFinished (s : TaskService) (id : String) : Forgets s (s.evictFinished id) := by
  unfold evictFinished
  split
  · next c hc =>
    split
    · next ended =>
      refine ⟨rfl, fun a => ?_⟩
      rw [Std.TreeMap.getElem?_erase]
      split
      · next e =>
        obtain rfl := Std.LawfulEqCmp.eq_of_compare e
        refine .inr ⟨rfl, fun d hd => ?_⟩
        rw [hc] at hd
        cases hd
        exact ended
      · exact .inl rfl
    · exact ⟨rfl, fun _ => .inl rfl⟩
  · exact ⟨rfl, fun _ => .inl rfl⟩

theorem forgets_evictTombstone (s : TaskService) (id : String) :
    Forgets s (s.evictTombstone id) := by
  unfold evictTombstone
  split
  · next ht =>
    refine ⟨rfl, fun a => ?_⟩
    rw [Std.TreeMap.getElem?_erase]
    split
    · next e =>
      obtain rfl := Std.LawfulEqCmp.eq_of_compare e
      exact .inr ⟨rfl, fun d hd => absurd (ht.symm.trans hd) (by simp)⟩
    · exact .inl rfl
  · exact ⟨rfl, fun _ => .inl rfl⟩

theorem forgets_retire (s : TaskService) (id : String) : Forgets s (s.retire id) := by
  unfold retire
  dsimp only
  split
  · exact ⟨(forgets_evictFinished _ _).cells, (forgets_evictFinished _ _).records⟩
  · exact ⟨rfl, fun _ => .inl rfl⟩

theorem forgets_rememberTombstone (s : TaskService) (id : String) :
    Forgets s (s.rememberTombstone id) := by
  unfold rememberTombstone
  dsimp only
  split
  · exact ⟨(forgets_evictTombstone _ _).cells, (forgets_evictTombstone _ _).records⟩
  · exact ⟨rfl, fun _ => .inl rfl⟩

/-! ## What an operation changes -/

/-- What one operation may change. A live record goes on naming its cell and a tombstone gives
way only to a cancelled task, unless the record is forgotten. -/
structure Follows (s s' : TaskService) : Prop where
  cells : ∀ c t, s.cell? c = some t → ∃ t', s'.cell? c = some t' ∧ t.Later t'
  live : ∀ (id : String) c, s.records[id]? = some (.live c) →
    s'.records[id]? = some (.live c) ∨ s'.records[id]? = none
  tombstone : ∀ id : String, s.records[id]? = some .tombstone →
    s'.records[id]? = some .tombstone ∨ s'.records[id]? = none ∨
      ∃ c t, s'.records[id]? = some (.live c) ∧ s'.cell? c = some t ∧ t.phase = .cancelled

theorem Follows.refl (s : TaskService) : Follows s s :=
  ⟨fun _ t h => ⟨t, h, .refl t⟩, fun _ _ => .inl, fun _ => .inl⟩

theorem Follows.forgets (h : Follows s s') (f : Forgets s' s'') : Follows s s'' where
  cells c t hc := by
    obtain ⟨t', hc', later⟩ := h.cells c t hc
    exact ⟨t', by rw [f.cell?, hc'], later⟩
  live id c hr := by
    rcases f.records id with same | ⟨gone, -⟩
    · rw [same]
      exact h.live id c hr
    · exact .inr gone
  tombstone id hr := by
    rcases f.records id with same | ⟨gone, -⟩
    · simp only [same, f.cell?]
      exact h.tombstone id hr
    · exact .inr (.inl gone)

theorem follows_setCell (hc : s.cell? c = some t) (later : t.Later t') :
    Follows s (s.setCell c t') where
  cells d u hd := by
    rw [cell?_setCell hc]
    split
    · next e =>
      subst e
      rw [hc] at hd
      cases hd
      exact ⟨t', rfl, later⟩
    · exact ⟨u, hd, .refl u⟩
  live _ _ := .inl
  tombstone _ := .inl

/-- A cell is registered under an id that has no record, or a cancelled one in place of a
tombstone. -/
theorem follows_register (h : s.records[t.id]? = none ∨
    s.records[t.id]? = some .tombstone ∧ t.phase = .cancelled) : Follows s (s.register t).2 where
  cells c u hc := by
    refine ⟨u, ?_, .refl u⟩
    obtain ⟨lt, -⟩ := List.getElem?_eq_some_iff.1 hc
    rw [cell?_register, if_neg (by omega), hc]
  live id c hr := by
    rw [records_register]
    split
    · next e =>
      subst e
      rw [hr] at h
      simp at h
    · exact .inl hr
  tombstone id hr := by
    rw [records_register]
    split
    · next e =>
      subst e
      rw [hr] at h
      exact .inr (.inr ⟨_, t, rfl, by simp [cell?_register], (h.resolve_left (by simp)).2⟩)
    · exact .inl hr

/-! ## Agreement of records and cells -/

structure Sound (s : TaskService) : Prop where
  /-- A live record names a cell of its id. -/
  named : ∀ (id : String) c, s.records[id]? = some (.live c) → ∃ t, s.cell? c = some t ∧ t.id = id
  /-- A task that has not ended is on record. -/
  onRecord : ∀ c t, s.cell? c = some t → t.state.isTerminal = false →
    s.records[t.id]? = some (.live c)

theorem sound_empty (limit : Nat) : Sound { finishedLimit := limit } :=
  ⟨fun id c h => by simp at h, fun c t h => by simp [cell?] at h⟩

theorem Sound.forgets (h : Sound s) (f : Forgets s s') : Sound s' where
  named id c hr := by
    rcases f.records id with same | ⟨gone, -⟩
    · rw [f.cell?]
      exact h.named id c (same ▸ hr)
    · simp [gone] at hr
  onRecord c t hc active := by
    rw [f.cell?] at hc
    have known := h.onRecord c t hc active
    rcases f.records t.id with same | ⟨-, ended⟩
    · rw [same, known]
    · have finished := ended c known
      simp [isTerminal, hc, active] at finished

theorem Sound.setCell (h : Sound s) (hc : s.cell? c = some t) (later : t.Later t') :
    Sound (s.setCell c t') where
  named id d hr := by
    rw [cell?_setCell hc]
    obtain ⟨u, hu, named⟩ := h.named id d hr
    split
    · next e =>
      subst e
      rw [hc] at hu
      cases hu
      exact ⟨t', rfl, later.id.trans named⟩
    · exact ⟨u, hu, named⟩
  onRecord d u hd active := by
    rw [cell?_setCell hc] at hd
    split at hd
    · next e =>
      subst e
      cases hd
      rw [later.id]
      refine h.onRecord d t hc ?_
      rw [← Bool.not_eq_true]
      intro finished
      rw [TaskCell.state, later.ended finished] at active
      exact absurd finished (by simp [TaskCell.state, active])
    · exact h.onRecord d u hd active

theorem Sound.register (h : Sound s) (free : ∀ c, s.records[t.id]? ≠ some (.live c)) :
    Sound (s.register t).2 where
  named id c hr := by
    rw [records_register] at hr
    rw [cell?_register]
    split at hr
    · next e =>
      cases hr
      exact ⟨t, by simp, e⟩
    · obtain ⟨u, hu, named⟩ := h.named id c hr
      obtain ⟨lt, -⟩ := List.getElem?_eq_some_iff.1 hu
      exact ⟨u, by rw [if_neg (by omega), hu], named⟩
  onRecord c u hc active := by
    rw [cell?_register] at hc
    rw [records_register]
    split at hc
    · next e =>
      cases hc
      simp [e]
    · have known := h.onRecord c u hc active
      have other : t.id ≠ u.id := fun e => free c (by rw [e, known])
      rw [if_neg other, known]

/-! ## The operations -/

theorem follows_submit (s : TaskService) (id : String) : Follows s (s.submit id).2 := by
  unfold submit
  split
  · exact .refl s
  · next hr =>
    have cancelled : Follows s (s.register (.newCancelled id)).2 :=
      follows_register (.inr ⟨hr, rfl⟩)
    exact cancelled.forgets (forgets_retire _ _)
  · next hr => exact follows_register (.inl hr)

/-- Work comes only of an id without a record; it gets the next cell. -/
theorem submit_fresh (h : (s.submit id).1 = .fresh c) :
    s.records[id]? = none ∧ c = s.cells.length ∧ (s.submit id).2.cell? c = some (.new id) := by
  unfold submit at *
  split at h
  · cases h
  · cases h
  · next hr =>
    cases h
    exact ⟨hr, rfl, by simp [cell?_register]⟩

theorem Sound.submit (h : Sound s) (id : String) : Sound (s.submit id).2 := by
  unfold TaskService.submit
  split
  · exact h
  · next hr =>
    have registered : Sound (s.register (.newCancelled id)).2 :=
      h.register fun c hc => absurd (hr.symm.trans hc) (by simp)
    exact registered.forgets (forgets_retire _ _)
  · next hr => exact h.register fun c hc => absurd (hr.symm.trans hc) (by simp)

theorem follows_cancelCell (s : TaskService) (c : Nat) (interrupt : Bool) :
    Follows s (s.cancelCell c interrupt).2 := by
  unfold cancelCell
  split
  · next hc => exact follows_setCell hc (TaskCell.later_cancel _ _)
  · exact .refl s

theorem Sound.cancelCell (h : Sound s) (c : Nat) (interrupt : Bool) :
    Sound (s.cancelCell c interrupt).2 := by
  unfold TaskService.cancelCell
  split
  · next hc => exact h.setCell hc (TaskCell.later_cancel _ _)
  · exact h

/-- A record is added where there was none. -/
theorem records_insert (h : s.records[id]? = none) (a : String) (r : TaskRecord)
    (ha : s.records[a]? = some r) : (s.records.insert id .tombstone)[a]? = some r := by
  rw [Std.TreeMap.getElem?_insert]
  split
  · next e =>
    obtain rfl := Std.LawfulEqCmp.eq_of_compare e
    rw [h] at ha
    cases ha
  · exact ha

theorem follows_cancel (s : TaskService) (id : String) (interrupt : Bool) :
    Follows s (s.cancel id interrupt).2 := by
  unfold cancel
  split
  · exact follows_cancelCell s _ interrupt
  · exact .refl s
  · next hr =>
    refine Follows.forgets ?_ (forgets_rememberTombstone _ _)
    exact ⟨fun _ t hc => ⟨t, hc, .refl t⟩, fun a c ha => .inl (records_insert hr a _ ha),
      fun a ha => .inl (records_insert hr a _ ha)⟩

theorem Sound.cancel (h : Sound s) (id : String) (interrupt : Bool) :
    Sound (s.cancel id interrupt).2 := by
  unfold TaskService.cancel
  split
  · exact h.cancelCell _ interrupt
  · exact h
  · next hr =>
    refine Sound.forgets ?_ (forgets_rememberTombstone _ _)
    refine ⟨fun a c ha => h.named a c ?_, fun c t hc active => ?_⟩
    · dsimp only at ha
      rw [Std.TreeMap.getElem?_insert] at ha
      split at ha
      · cases ha
      · exact ha
    · exact records_insert hr _ _ (h.onRecord c t hc active)

theorem follows_start (s : TaskService) (c : Nat) : Follows s (s.start c).2 := by
  unfold start
  split
  · next hc => exact follows_setCell hc (TaskCell.later_start _)
  · exact .refl s

theorem Sound.start (h : Sound s) (c : Nat) : Sound (s.start c).2 := by
  unfold TaskService.start
  split
  · next hc => exact h.setCell hc (TaskCell.later_start _)
  · exact h

theorem follows_finish (s : TaskService) (c : Nat) (r : Except GridError Json) :
    Follows s (s.finish c r) := by
  unfold finish
  split
  · next hc => exact follows_setCell hc (TaskCell.later_finish _ _)
  · exact .refl s

theorem Sound.finish (h : Sound s) (c : Nat) (r : Except GridError Json) :
    Sound (s.finish c r) := by
  unfold TaskService.finish
  split
  · next hc => exact h.setCell hc (TaskCell.later_finish _ _)
  · exact h

/-- The work that may begin is that of a submitted task, which runs from then on. -/
theorem start_eq_true (h : (s.start c).1 = true) :
    ∃ t t', s.cell? c = some t ∧ t.state = .submitted ∧
      (s.start c).2.cell? c = some t' ∧ t'.state = .running := by
  unfold start at h ⊢
  split at h
  · next t hc =>
    obtain ⟨submitted, running⟩ := TaskCell.start_eq_true h
    exact ⟨t, t.start.2, hc, submitted, by simp [cell?_setCell hc], running⟩
  · cases h

/-! ## A barred id -/

/-- The record of an id lets no task run: it is a tombstone, or its task is cancelled. -/
def Barred (s : TaskService) (id : String) : Prop :=
  s.records[id]? = some .tombstone ∨
    ∃ c t, s.records[id]? = some (.live c) ∧ s.cell? c = some t ∧ t.phase = .cancelled

theorem Barred.follows (h : Barred s id) (f : Follows s s') (kept : s'.records[id]? ≠ none) :
    Barred s' id := by
  rcases h with hr | ⟨c, t, hr, hc, cancelled⟩
  · rcases f.tombstone id hr with same | gone | live
    · exact .inl same
    · exact absurd gone kept
    · exact .inr live
  · obtain ⟨t', hc', later⟩ := f.cells c t hc
    have same := (f.live id c hr).resolve_right kept
    exact .inr ⟨c, t', same, hc',
      (later.ended (TaskCell.isTerminal_of_cancelled cancelled)).trans cancelled⟩

/-- A cancellation that is accepted bars the id, unless its record is forgotten at once. -/
theorem barred_cancel {interrupt : Bool} (accepted : (s.cancel id interrupt).1 = true)
    (kept : (s.cancel id interrupt).2.records[id]? ≠ none) :
    Barred (s.cancel id interrupt).2 id := by
  have f := follows_cancel s id interrupt
  unfold cancel at *
  split at accepted
  · next c hr =>
    simp only [hr] at kept f ⊢
    unfold cancelCell at *
    split at accepted
    · next t hc =>
      simp only [hc] at kept f ⊢
      exact .inr ⟨c, _, hr, by simp [cell?_setCell hc], TaskCell.phase_cancel accepted⟩
    · cases accepted
  · next hr => exact .inl hr
  · next hr =>
    simp only [hr] at kept ⊢
    rcases (forgets_rememberTombstone _ id).records id with same | ⟨gone, -⟩
    · exact .inl (by rw [same]; simp)
    · exact absurd gone kept

/-- No task of a barred id is still to begin. -/
theorem Barred.not_submitted (h : Barred s id) (sound : Sound s) (hc : s.cell? c = some t)
    (ht : t.id = id) : t.state ≠ .submitted := by
  intro submitted
  have known := sound.onRecord c t hc (by rw [submitted]; rfl)
  rw [ht] at known
  rcases h with hr | ⟨d, u, hr, hd, cancelled⟩
  · rw [known] at hr
    cases hr
  · rw [known] at hr
    cases hr
    rw [hc] at hd
    cases hd
    simp [TaskCell.state, cancelled, Phase.state] at submitted

/-- What is submitted under a barred id is cancelled, and no work comes of it. -/
theorem Barred.submit (h : Barred s id) (sound : Sound s) :
    ∃ c t, (s.submit id).1 = .settled c ∧ (s.submit id).2.cell? c = some t ∧ t.id = id ∧
      t.phase = .cancelled := by
  unfold TaskService.submit
  rcases h with hr | ⟨c, t, hr, hc, cancelled⟩
  · simp only [hr]
    refine ⟨_, .newCancelled id, rfl, ?_, rfl, rfl⟩
    rw [(forgets_retire _ _).cell?, cell?_register]
    exact if_pos rfl
  · simp only [hr]
    obtain ⟨u, hu, named⟩ := sound.named id c hr
    rw [hc] at hu
    cases hu
    exact ⟨c, t, rfl, hc, named, cancelled⟩

/-- Who asks for a barred id sees a cancelled task, or nothing while there is a tombstone only. -/
theorem Barred.snapshot (h : Barred s id) :
    s.records[id]? = some .tombstone ∧ s.snapshot? id = none ∨
      ∃ t, s.snapshot? id = some t ∧ t.phase = .cancelled := by
  rcases h with hr | ⟨c, t, hr, hc, cancelled⟩
  · exact .inl ⟨hr, by simp [snapshot?, handle?, hr]⟩
  · exact .inr ⟨t, by simp [snapshot?, handle?, hr, hc], cancelled⟩

end TaskService

end DataGrid
