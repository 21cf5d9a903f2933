import DataGrid.Proofs.Task.Effect
import Mathlib.Data.Set.Card

/-!
# Retention

An ended task stays on record until as many tasks as the limit allows were retired after it. Main
statement: the finished tasks on record are those retired last, what leaves is the oldest of them,
and there are no more tombstones than their limit (`retention`).
-/

namespace DataGrid

namespace TaskService

variable {s s' : TaskService} {c : Nat} {t : TaskCell} {id : String} {due past : List Nat}

/-! ## Retired tasks -/

/-- The id of a cell. -/
def idOf? (s : TaskService) (c : Nat) : Option String := (s.cell? c).map (·.id)

theorem idOf?_eq_none (h : s.cells.length ≤ c) : s.idOf? c = none := by
  simp [idOf?, cell?, h]

theorem Works.idOf? (h : Works s s') (c : Nat) : s'.idOf? c = s.idOf? c := by
  obtain ⟨cells, count, rfl, later⟩ := h
  by_cases lt : c < s.cells.length
  · have hc : s.cell? c = some s.cells[c] := List.getElem?_eq_getElem lt
    obtain ⟨t', hc', next⟩ := later c _ hc
    simp [TaskService.idOf?, hc, hc', next.id]
  · have none : s.cells.length ≤ c := by omega
    rw [idOf?_eq_none none, idOf?_eq_none (by rwa [← count] at none)]

theorem Works.isTerminal (h : Works s s') (ended : s.isTerminal c = true) :
    s'.isTerminal c = true := by
  obtain ⟨cells, -, rfl, later⟩ := h
  cases hc : s.cell? c with
  | none => simp [TaskService.isTerminal, hc] at ended
  | some t =>
    obtain ⟨t', hc', next⟩ := later c t hc
    have ended : t.state.isTerminal = true := by simpa [TaskService.isTerminal, hc] using ended
    simpa [TaskService.isTerminal, hc', TaskCell.state, next.ended ended] using ended

/-- The cells still to be retired are `due`, those retired are `past`, the latest first. A task is
on record while it is due and as long as it is among the latest of the past. -/
structure Retains (s : TaskService) (due past : List Nat) : Prop where
  cells : ∀ c, c ∈ due ++ past ↔ c < s.cells.length
  distinct : (due ++ past).Nodup
  ended : ∀ c ∈ past, s.isTerminal c = true
  queue : s.finished.map some = (past.take s.finishedLimit).map s.idOf?
  onRecord : ∀ c id, s.idOf? c = some id →
    (s.records[id]? = some (.live c) ↔ c ∈ due ∨ c ∈ past.take s.finishedLimit)

theorem retains_empty (limit : Nat) : Retains { finishedLimit := limit } [] [] :=
  ⟨by simp, .nil, by simp, by simp, by simp [idOf?, cell?]⟩

/-- Nothing is said of the records but which tasks are on record. -/
theorem Retains.frame (h : s.Retains due past) (limit : s'.finishedLimit = s.finishedLimit)
    (finished : s'.finished = s.finished) (count : s'.cells.length = s.cells.length)
    (ids : ∀ c, s'.idOf? c = s.idOf? c)
    (ended : ∀ c, s.isTerminal c = true → s'.isTerminal c = true)
    (live : ∀ (id : String) c, s'.records[id]? = some (.live c) ↔ s.records[id]? = some (.live c)) :
    s'.Retains due past where
  cells c := by rw [h.cells, count]
  distinct := h.distinct
  ended c hc := ended c (h.ended c hc)
  queue := by
    rw [finished, limit, h.queue]
    exact List.map_congr_left fun c _ => (ids c).symm
  onRecord c id hc := by
    rw [live, limit]
    exact h.onRecord c id (ids c ▸ hc)

theorem Retains.works (h : s.Retains due past) (works : Works s s') : s'.Retains due past := by
  have ids := works.idOf?
  have ended := fun c => works.isTerminal (c := c)
  obtain ⟨cells, count, rfl, -⟩ := works
  exact h.frame rfl rfl count ids ended fun _ _ => .rfl

theorem Retains.bury (h : s.Retains due past) (bounded : s.Bounded) (hr : s.records[id]? = none) :
    (s.bury id).Retains due past := by
  have live := live_bury bounded hr
  obtain ⟨records, eq⟩ := bury_eq bounded id
  rw [eq] at live ⊢
  exact h.frame rfl rfl rfl (fun _ => rfl) (fun _ ended => ended) live

/-- A new task is due. -/
theorem Retains.register (h : s.Retains due past)
    (free : ∀ c, s.records[t.id]? ≠ some (.live c)) :
    (s.register t).2.Retains (s.cells.length :: due) past := by
  have old {c : Nat} (lt : c < s.cells.length) : (s.register t).2.cell? c = s.cell? c := by
    rw [cell?_register, if_neg (by omega)]
  have known {c : Nat} (hc : c ∈ due ∨ c ∈ past) : c < s.cells.length :=
    (h.cells c).1 (List.mem_append.2 hc)
  refine ⟨fun c => ?_, ?_, fun c hc => ?_, ?_, fun c id hc => ?_⟩
  · have count : (s.register t).2.cells.length = s.cells.length + 1 := by
      simp [TaskService.register]
    rw [count, List.cons_append, List.mem_cons, h.cells]
    omega
  · rw [List.cons_append, List.nodup_cons, h.cells]
    exact ⟨Nat.lt_irrefl _, h.distinct⟩
  · rw [isTerminal, old (known (.inr hc))]
    exact h.ended c hc
  · refine h.queue.trans (List.map_congr_left fun c hc => ?_)
    rw [idOf?, idOf?, old (known (.inr (List.mem_of_mem_take hc)))]
  · change (s.register t).2.records[id]? = some (.live c) ↔
      c ∈ s.cells.length :: due ∨ c ∈ past.take s.finishedLimit
    rw [idOf?, cell?_register] at hc
    rw [records_register]
    split at hc
    · next new =>
      cases hc
      simp [new]
    · next ne =>
      have before := h.onRecord c id hc
      rw [List.mem_cons, or_iff_right ne]
      split
      · next same =>
        rw [← before, ← same]
        refine iff_of_false (fun e => ne ?_) (free c)
        cases e
        rfl
      · exact before

theorem Retains.room (h : s.Retains due past) : s.finished.length ≤ s.finishedLimit := by
  have length := congrArg List.length h.queue
  simp only [List.length_map, List.length_take] at length
  omega

/-- An element of a list without repetitions stands neither before the list nor earlier in it. -/
theorem not_mem_of_getElem? {α : Type} {front l : List α} {n : Nat} {d : α}
    (distinct : (front ++ l).Nodup) (there : l[n]? = some d) : d ∉ front ∧ d ∉ l.take n := by
  obtain ⟨-, tail, apart⟩ := List.nodup_append.1 distinct
  refine ⟨fun hd => apart d hd d (List.mem_of_getElem? there) rfl, fun hd => ?_⟩
  have taken := tail.sublist (List.take_sublist (n + 1) l)
  rw [List.take_add_one, there] at taken
  exact (List.nodup_append.1 taken).2.2 d hd d (by simp) rfl

/-- What is queued at a place is the id of the cell at that place. -/
theorem getElem?_queue {queue : List String} {cells : List Nat}
    (h : queue.map some = cells.map s.idOf?) (n : Nat) (a : String) :
    queue[n]? = some a ↔ ∃ d, cells[n]? = some d ∧ s.idOf? d = some a := by
  have place := congrArg (·[n]?) h
  simp only [List.getElem?_map] at place
  cases hq : queue[n]? <;> cases hd : cells[n]? <;> simp_all

/-- A task that is due and has ended joins the past, where the one beyond the limit is evicted. -/
theorem Retains.retire (h : s.Retains due past) (hc : s.cell? c = some t)
    (ended : t.state.isTerminal = true) (hd : c ∈ due) :
    (s.retire t.id).Retains (due.erase c) (c :: past) := by
  have perm : (due.erase c ++ c :: past).Perm (due ++ past) :=
    List.perm_middle.trans ((List.perm_cons_erase hd).symm.append_right past)
  have distinct : (due.erase c ++ c :: past).Nodup := perm.nodup_iff.2 h.distinct
  have ended (d : Nat) (hd : d ∈ c :: past) : s.isTerminal d = true := by
    rcases List.mem_cons.1 hd with rfl | hd
    · simpa [isTerminal, hc] using ended
    · exact h.ended d hd
  have latest : (c :: past).take (s.finishedLimit + 1) =
      (c :: past).take s.finishedLimit ++ ((c :: past)[s.finishedLimit]?).toList :=
    List.take_add_one
  have ids : (t.id :: s.finished).map some =
      ((c :: past).take (s.finishedLimit + 1)).map s.idOf? := by
    simp [h.queue, idOf?, hc]
  -- the id beyond the limit is that of the cell beyond the limit
  have beyond (a : String) : (t.id :: s.finished)[s.finishedLimit]? = some a ↔
      ∃ d, (c :: past)[s.finishedLimit]? = some d ∧ s.idOf? d = some a := by
    rw [getElem?_queue ids, List.getElem?_take, if_pos (Nat.lt_add_one _)]
  have onRecord (d : Nat) (id : String) (hid : s.idOf? d = some id) :
      s.records[id]? = some (.live d) ↔
        d ∈ due.erase c ∨ d ∈ (c :: past).take (s.finishedLimit + 1) := by
    rw [h.onRecord d id hid, (List.perm_cons_erase hd).mem_iff, List.take_succ_cons]
    simp only [List.mem_cons, or_left_comm, or_assoc]
  have same := (forgets_retire s t.id).cell?
  have limit : (s.retire t.id).finishedLimit = s.finishedLimit := by rw [retire_eq h.room]
  refine ⟨fun d => ?_, distinct, fun d hd => ?_, ?_, fun d id hid => ?_⟩
  · rw [perm.mem_iff, h.cells, (forgets_retire s t.id).cells]
  · rw [isTerminal, same]
    exact ended d hd
  · have idOf (d : Nat) : (s.retire t.id).idOf? d = s.idOf? d := by rw [idOf?, idOf?, same]
    rw [limit, List.map_congr_left fun d _ => idOf d, retire_eq h.room]
    simp only [List.map_take, ids, List.take_take, Nat.min_eq_left (Nat.le_succ _)]
  · have hid : s.idOf? d = some id := by rwa [idOf?, same] at hid
    have before := onRecord d id hid
    rw [latest, List.mem_append, Option.mem_toList] at before
    rw [limit, records_retire h.room]
    split
    -- the record that goes is that of the cell beyond the limit, so of no cell that is kept
    · next gone =>
      obtain ⟨d', there, hid'⟩ := (beyond id).1 gone.1
      have before' := onRecord d' id hid'
      rw [latest, List.mem_append, Option.mem_toList] at before'
      refine iff_of_false (by simp) fun hd => ?_
      have both := (before'.2 (.inr (.inr there))).symm.trans (before.2 (hd.imp_right .inl))
      obtain rfl : d' = d := by simpa using both
      obtain ⟨undue, early⟩ := not_mem_of_getElem? distinct there
      exact hd.elim undue early
    · next kept =>
      refine before.trans ⟨fun hd => ?_, Or.imp_right .inl⟩
      rcases hd with hd | hd | there
      · exact .inl hd
      · exact .inr hd
      · have handle : s.handle? id = some d := handle?_eq_some.2 (before.2 (.inr (.inr there)))
        refine absurd ⟨(beyond id).2 ⟨d, there, hid⟩, ?_⟩ kept
        simpa [handle] using ended d (List.mem_of_getElem? there)

/-- Each id in the queue is that of a cell among the latest retired. -/
theorem Retains.mem_finished (h : s.Retains due past) (hid : id ∈ s.finished) :
    ∃ c ∈ past.take s.finishedLimit, s.idOf? c = some id := by
  have mem : some id ∈ (past.take s.finishedLimit).map s.idOf? := by
    rw [← h.queue]
    exact List.mem_map_of_mem hid
  exact List.mem_map.1 mem

/-- Tasks on record have different ids, so that no id is queued twice. -/
theorem Retains.nodup_finished (h : s.Retains due past) : s.finished.Nodup := by
  refine List.Nodup.of_map some ?_
  rw [h.queue]
  refine List.Nodup.map_on (fun c hc d hd same => ?_)
    (h.distinct.of_append_right.sublist (List.take_sublist _ _))
  have lt : c < s.cells.length :=
    (h.cells c).1 (List.mem_append_right _ (List.mem_of_mem_take hc))
  have hid : s.idOf? c = some s.cells[c].id := by simp [idOf?, cell?, lt]
  have both := ((h.onRecord c _ hid).2 (.inr hc)).symm.trans
    ((h.onRecord d _ (same ▸ hid)).2 (.inr hd))
  simpa using both

end TaskService

namespace Workshop

open TaskService

variable {w : Workshop} {e : Event} {c : Nat} {id : String}

/-- The task that a step retires joins the past. -/
theorem Effect.retains {retired : Option Nat} {buried : Option String} {s : TaskService}
    {due past : List Nat} (h : w.Effect e retired buried s due) (bounded : w.service.Bounded)
    (retains : w.service.Retains w.unretired past) : s.Retains due (retired.toList ++ past) := by
  cases h with
  | works h => exact retains.works h
  | registers h => exact retains.register fun c hc => absurd (h.symm.trans hc) (by simp)
  | @unearths id h =>
    have new : (w.service.register (.newCancelled id)).2.cell? w.service.cells.length =
        some (.newCancelled id) := by simp [cell?_register]
    have due : (w.service.register (.newCancelled id)).2.Retains
        (w.service.cells.length :: w.unretired) past :=
      retains.register fun c hc => absurd (h.symm.trans hc) (by simp)
    have ended := due.retire new rfl List.mem_cons_self
    rw [List.erase_cons_head] at ended
    exact ended
  | buries h => exact retains.bury bounded h
  | retires hc ended due => exact retains.retire hc ended due

/-! ## Runs -/

/-- What the steps of a run note, the latest first. -/
def notes {α : Type} (note? : Workshop → Event → Option α) (w : Workshop) : List Event → List α
  | [] => []
  | e :: es => notes note? (w.step e) es ++ (note? w e).toList

/-- The cells whose tasks a run retires, the latest first. -/
abbrev retirements (w : Workshop) (es : List Event) : List Nat := notes retires? w es

/-- The ids that a run records tombstones for, the latest first. -/
abbrev burials (w : Workshop) (es : List Event) : List String := notes buries? w es

theorem burials_cons (w : Workshop) (e : Event) (es : List Event) :
    w.burials (e :: es) = (w.step e).burials es ++ (w.buries? e).toList := rfl

/-- The queues hold the latest of what was retired and buried. -/
structure Recalls (limit : Nat) (w : Workshop) (past : List Nat) (buried : List String) :
    Prop where
  limit : w.service.finishedLimit = limit
  bounded : w.service.Bounded
  retains : w.service.Retains w.unretired past
  tombstones : w.service.tombstones = buried.take tombstoneLimit
  queued : ∀ id : String, w.service.records[id]? = some .tombstone → id ∈ w.service.tombstones

variable {limit : Nat} {past : List Nat} {buried : List String}

theorem recalls_new (limit : Nat) : (new limit).Recalls limit [] [] :=
  ⟨rfl, ⟨Nat.zero_le _, Nat.zero_le _⟩, retains_empty limit, rfl, fun id h => by simp [new] at h⟩

theorem Recalls.step (h : Recalls limit w past buried) (e : Event) :
    Recalls limit (w.step e) ((w.retires? e).toList ++ past) ((w.buries? e).toList ++ buried) := by
  have effect := effect_step w e
  have queue := effect.tombstones h.bounded
  refine ⟨(effect.limit h.bounded).trans h.limit, effect.bounded h.bounded,
    effect.retains h.bounded h.retains, ?_, fun id hid => ?_⟩
  · rw [queue, h.tombstones]
    cases w.buries? e with
    | none => simp
    | some b =>
      simp only [Option.toList_some, List.singleton_append]
      rw [← List.take_succ_cons, List.take_take, Nat.min_eq_left (Nat.le_succ _)]
  -- a tombstone that is still there did not leave the queue, or it would be gone
  · obtain ⟨fresh, -, inside⟩ := (effect.tombstone h.bounded id).1 hid
    have known : id ∈ (w.buries? e).toList ++ w.service.tombstones := by
      rw [List.mem_append, Option.mem_toList]
      exact fresh.imp_right (h.queued id)
    rw [← List.take_of_length_le (h.bounded.length_buried _), List.take_add_one, List.mem_append,
      Option.mem_toList] at known
    rw [queue]
    exact known.resolve_right inside

theorem Recalls.run (h : Recalls limit w past buried) (es : List Event) :
    Recalls limit (w.run es) (w.retirements es ++ past) (w.burials es ++ buried) := by
  induction es generalizing w past buried with
  | nil => exact h
  | cons e es ih =>
    simp only [retirements, burials, notes, List.append_assoc]
    exact ih (h.step e)

/-- From the start, what a run retires and buries is all there is to recall. -/
theorem recalls_run (limit : Nat) (es : List Event) :
    Recalls limit ((new limit).run es) ((new limit).retirements es) ((new limit).burials es) := by
  simpa using (recalls_new limit).run es

/-! ## Handles -/

/-- A submission gives a handle on a task of its id. -/
theorem Orderly.idOf?_submit (orderly : w.Orderly) (id : String) :
    (w.step (.submit id)).idOf? (w.service.submit id).1.cell = some id := by
  rw [idOf?, service_step_submit]
  cases hr : w.service.records[id]? with
  | none =>
    rw [submit_of_none hr, Submission.cell, cell?_register, if_pos rfl]
    rfl
  | some r =>
    cases r with
    | tombstone =>
      rw [submit_of_tombstone hr, Submission.cell, (forgets_retire _ _).cell?, cell?_register,
        if_pos rfl]
      rfl
    | live c =>
      obtain ⟨t, hc, named⟩ := orderly.sound.named id c hr
      rw [submit_of_live hr, Submission.cell, hc, Option.map_some, named]

/-- A task is on record until as many tasks as the limit allows have been retired after it. -/
theorem Recalls.known_iff (h : Recalls limit w past buried)
    (hid : w.service.idOf? c = some id) :
    w.service.records[id]? = some (.live c) ↔ c ∉ past.drop limit := by
  obtain ⟨t, hc, -⟩ := Option.map_eq_some_iff.1 hid
  have here : c ∈ w.unretired ++ past := (h.retains.cells c).2 (List.getElem?_eq_some_iff.1 hc).1
  have distinct := h.retains.distinct
  rw [← List.take_append_drop limit past, ← List.append_assoc] at here distinct
  rw [h.retains.onRecord c id hid, h.limit, ← List.mem_append]
  exact ⟨fun known gone => (List.nodup_append.1 distinct).2.2 c known c gone rfl,
    (List.mem_append.1 here).resolve_right⟩

/-! ## Evictions -/

/-- There are no more tombstones than ids in their queue. -/
theorem Recalls.encard_tombstones (h : Recalls limit w past buried) :
    {id : String | w.service.records[id]? = some .tombstone}.encard ≤ tombstoneLimit := by
  have subset : {id : String | w.service.records[id]? = some .tombstone} ⊆
      ↑w.service.tombstones.toFinset := fun id hid => by
    simpa using h.queued id hid
  refine (Set.encard_le_encard subset).trans ?_
  rw [Set.encard_coe_eq_coe_finsetCard]
  exact_mod_cast (List.toFinset_card_le _).trans h.bounded.tombstones

/-- A task leaves the records when it is the last of the latest and another one is retired. -/
theorem Recalls.evicted (h : Recalls limit w past buried) (pos : 1 ≤ limit)
    (hid : w.service.idOf? c = some id) (hr : w.service.records[id]? = some (.live c))
    (gone : (w.step e).service.records[id]? ≠ some (.live c)) :
    past[limit - 1]? = some c ∧ ∃ d, w.retires? e = some d ∧ d ≠ c := by
  have before := (h.retains.onRecord c id hid).1 hr
  have next := h.step e
  have hid' : (w.step e).service.idOf? c = some id := idOf?_step hid e
  obtain ⟨due, late⟩ := not_or.1 (mt (next.retains.onRecord c id hid').2 gone)
  have retired : c ∈ (w.retires? e).toList ++ past := by
    refine (List.mem_append.1 ((next.retains.cells c).2 ?_)).resolve_left due
    by_contra beyond
    rw [idOf?_eq_none (by omega)] at hid'
    cases hid'
  have apart (hc : c ∈ past) (hd : c ∈ w.unretired) : False :=
    (List.nodup_append.1 h.retains.distinct).2.2 c hd c hc rfl
  rw [h.limit] at before
  rw [next.limit] at late
  cases hd : w.retires? e with
  | none =>
    simp only [hd, Option.toList_none, List.nil_append] at retired late
    exact (before.elim (apart retired) late).elim
  | some d =>
    obtain ⟨m, rfl⟩ : ∃ m, limit = m + 1 := ⟨limit - 1, by omega⟩
    simp only [hd, Option.toList_some, List.singleton_append, List.take_succ_cons, List.mem_cons,
      not_or] at retired late
    have latest : c ∈ past.take (m + 1) := before.resolve_left (apart (retired.resolve_left late.1))
    rw [List.take_add_one, List.mem_append, Option.mem_toList] at latest
    exact ⟨latest.resolve_left late.2, d, rfl, Ne.symm late.1⟩

/-- The queue names the tasks retired last, each of them once, and they have ended. A task leaves
the records only as the oldest of the queue, when the queue is full and another task is retired;
one that has not ended is on record and stays there. Of the tasks that have been retired the
latest are on record and no other, and there are no more tombstones than their limit. -/
theorem retention (limit : Nat) (pos : 1 ≤ limit) (es : List Event) :
    let w := (new limit).run es
    let past := (new limit).retirements es
    (w.service.finished.length ≤ limit ∧ w.service.finished.Nodup ∧
      ∀ id ∈ w.service.finished, ∃ c t, w.service.records[id]? = some (.live c) ∧
        w.service.cell? c = some t ∧ t.id = id ∧ t.state.isTerminal = true) ∧
    (∀ e id c, w.service.records[id]? = some (.live c) →
      (w.step e).service.records[id]? ≠ some (.live c) →
        w.service.finished.length = limit ∧ w.service.finished.getLast? = some id ∧
          past[limit - 1]? = some c ∧ ∃ d, w.retires? e = some d ∧ d ≠ c) ∧
    (∀ c t, w.service.cell? c = some t → t.state.isTerminal = false →
      w.service.records[t.id]? = some (.live c) ∧
        ∀ e, (w.step e).service.records[t.id]? = some (.live c)) ∧
    (past.Nodup ∧ ∀ c t, w.service.cell? c = some t → (c ∈ past ↔ c ∉ w.unretired) ∧
      (c ∈ past → (w.service.records[t.id]? = some (.live c) ↔ c ∈ past.take limit))) ∧
    {id : String | w.service.records[id]? = some .tombstone}.encard ≤ tombstoneLimit := by
  intro w past
  have recalls : Recalls limit w past _ := recalls_run limit es
  have retains := recalls.retains
  have sound : w.service.Sound := ((orderly_new limit).run es).sound
  have distinct := List.nodup_append.1 retains.distinct
  have length : w.service.finished.length = min limit past.length := by
    simpa [recalls.limit] using congrArg List.length retains.queue
  have evicted (e : Event) (id : String) (c : Nat)
      (hr : w.service.records[id]? = some (.live c))
      (gone : (w.step e).service.records[id]? ≠ some (.live c)) :
      w.service.idOf? c = some id ∧ past[limit - 1]? = some c ∧
        ∃ d, w.retires? e = some d ∧ d ≠ c := by
    obtain ⟨t, hc, rfl⟩ := sound.named id c hr
    have hid : w.service.idOf? c = some t.id := by simp [TaskService.idOf?, hc]
    exact ⟨hid, recalls.evicted pos hid hr gone⟩
  refine ⟨⟨?_, retains.nodup_finished, fun id hid => ?_⟩, fun e id c hr gone => ?_,
    fun c t hc active => ?_, ⟨distinct.2.1, fun c t hc => ⟨?_, fun retired => ?_⟩⟩,
    recalls.encard_tombstones⟩
  · omega
  · obtain ⟨c, latest, hid⟩ := retains.mem_finished hid
    obtain ⟨t, hc, named⟩ := Option.map_eq_some_iff.1 hid
    have ended := retains.ended c (List.mem_of_mem_take latest)
    exact ⟨c, t, (retains.onRecord c id hid).2 (.inr latest), hc, named,
      by simpa [isTerminal, hc] using ended⟩
  · obtain ⟨hid, last, retires⟩ := evicted e id c hr gone
    obtain ⟨full, -⟩ := List.getElem?_eq_some_iff.1 last
    refine ⟨by omega, ?_, last, retires⟩
    rw [List.getLast?_eq_getElem?, length, Nat.min_eq_left (by omega)]
    refine (getElem?_queue retains.queue _ id).2 ⟨c, ?_, hid⟩
    rw [recalls.limit, List.getElem?_take, if_pos (by omega), last]
  · have known := sound.onRecord c t hc active
    refine ⟨known, fun e => ?_⟩
    by_contra gone
    obtain ⟨-, last, -⟩ := evicted e t.id c known gone
    have ended := retains.ended c (List.mem_of_getElem? last)
    simp [isTerminal, hc, active] at ended
  · have here : c ∈ w.unretired ++ past :=
      (retains.cells c).2 (List.getElem?_eq_some_iff.1 hc).1
    rw [List.mem_append] at here
    exact ⟨fun retired due => distinct.2.2 c due c retired rfl, here.resolve_left⟩
  · have hid : w.service.idOf? c = some t.id := by simp [TaskService.idOf?, hc]
    rw [retains.onRecord c t.id hid, recalls.limit, or_iff_right]
    exact fun due => distinct.2.2 c due c retired rfl

/-- With room for one, retiring a second task takes the first one from the records. -/
theorem retention_second :
    let w := (new 1).run [.submit "a", .grant 0, .start 0, .finish 0 (.ok .null), .retire 0,
      .submit "b", .grant 1, .start 1, .finish 1 (.ok .null)]
    w.service.records["a"]? = some (.live 0) ∧
      (w.step (.retire 1)).service.records["a"]? ≠ some (.live 0) ∧
      w.service.finished.getLast? = some "a" ∧ ∃ d, w.retires? (.retire 1) = some d ∧ d ≠ 0 := by
  have evicted := (retention 1 (by decide) [.submit "a", .grant 0, .start 0,
    .finish 0 (.ok .null), .retire 0, .submit "b", .grant 1, .start 1,
    .finish 1 (.ok .null)]).2.1 (.retire 1) "a" 0 (by decide) (by decide)
  exact ⟨by decide, by decide, evicted.2.1, evicted.2.2.2⟩

end Workshop

end DataGrid
