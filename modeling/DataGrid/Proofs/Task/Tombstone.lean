import DataGrid.Proofs.Task.Retention
import Std.Data.String.ToNat

/-!
# Early cancellations

A cancellation that comes before its submission leaves a tombstone. A tombstone that a submission
has used up leaves its id in the queue, and when the old id leaves the queue it takes a newer
tombstone of the id with it. Main statements: which tombstones are still there for the next
submission (`next_submit_cancelled`), and one that is lost with a single newer one behind it
(`next_submit_runs`).
-/

namespace DataGrid

namespace Workshop

open TaskService

variable {w : Workshop} {es : List Event} {id : String} {c : Nat} {t : TaskCell}

/-! ## Leaving the queue -/

/-- The ids that leave the queue of tombstones in a run, the latest first. -/
def departures (w : Workshop) (es : List Event) : List String :=
  (w.burials es ++ w.service.tombstones).drop tombstoneLimit

theorem drop_append_of_length_le {α : Type} {n : Nat} (new : List α) {queue : List α}
    (h : queue.length ≤ n + 1) :
    (new ++ queue).drop n = (new ++ queue.take n).drop n ++ queue[n]?.toList := by
  have split : queue = queue.take n ++ queue[n]?.toList := by
    rw [← List.take_add_one, List.take_of_length_le h]
  conv_lhs => rw [split, ← List.append_assoc, List.drop_append]
  congr 1
  cases last : queue[n]? with
  | none => simp
  | some a =>
    obtain ⟨lt, -⟩ := List.getElem?_eq_some_iff.1 last
    have full : n - (new ++ queue.take n).length = 0 := by
      simp only [List.length_append, List.length_take]
      omega
    rw [full, List.drop_zero]

/-- One id at most leaves in a step, and it is the one beyond the limit. -/
theorem departures_cons (bounded : w.service.Bounded) (e : Event) (es : List Event) :
    w.departures (e :: es) = (w.step e).departures es ++
      (((w.buries? e).toList ++ w.service.tombstones)[tombstoneLimit]?).toList := by
  rw [departures, departures, (effect_step w e).tombstones bounded, burials_cons,
    List.append_assoc]
  exact drop_append_of_length_le _ (bounded.length_buried _)

/-- A tombstone whose id does not leave the queue stays until the id is submitted. -/
theorem tombstone_run (bounded : w.service.Bounded)
    (hr : w.service.records[id]? = some .tombstone) (unsubmitted : Event.submit id ∉ es)
    (stays : id ∉ w.departures es) : (w.run es).service.records[id]? = some .tombstone := by
  induction es generalizing w with
  | nil => exact hr
  | cons e es ih =>
    rw [departures_cons bounded, List.mem_append, Option.mem_toList, not_or] at stays
    rw [List.mem_cons, not_or] at unsubmitted
    have effect := effect_step w e
    exact ih (effect.bounded bounded)
      ((effect.tombstone bounded id).2 ⟨.inr hr, Ne.symm unsubmitted.1, stays.2⟩) unsubmitted.2
      stays.1

/-- An unknown id stays so until it is submitted or cancelled. -/
theorem unknown_run (bounded : w.service.Bounded) (hr : w.service.records[id]? = none)
    (unsubmitted : Event.submit id ∉ es) (unburied : id ∉ w.burials es) :
    (w.run es).service.records[id]? = none := by
  induction es generalizing w with
  | nil => exact hr
  | cons e es ih =>
    rw [List.mem_cons, not_or] at unsubmitted
    rw [burials_cons, List.mem_append, Option.mem_toList, not_or] at unburied
    have effect := effect_step w e
    refine ih (effect.bounded bounded) ?_ unsubmitted.2 unburied.1
    have next := effect.not_live bounded (by simp [hr]) (Ne.symm unsubmitted.1)
    refine next.resolve_right fun ht => ?_
    obtain ⟨fresh, -⟩ := (effect.tombstone bounded id).1 ht
    rw [hr] at fresh
    exact absurd fresh (by simp [unburied.2])

/-- A tombstone is lost when its id leaves the queue, whatever brought the id there. -/
theorem tombstone_lost (bounded : w.service.Bounded)
    (hr : w.service.records[id]? = some .tombstone) (unsubmitted : Event.submit id ∉ es)
    (unburied : id ∉ w.burials es) (leaves : id ∈ w.departures es) :
    (w.run es).service.records[id]? = none := by
  -- on the steps of the run: the id leaves in the first one, or in one of the others
  induction es generalizing w with
  | nil =>
    rw [departures, burials, notes, List.nil_append, List.drop_of_length_le bounded.tombstones]
      at leaves
    cases leaves
  | cons e es ih =>
    rw [departures_cons bounded, List.mem_append, Option.mem_toList] at leaves
    rw [List.mem_cons, not_or] at unsubmitted
    rw [burials_cons, List.mem_append, Option.mem_toList, not_or] at unburied
    have effect := effect_step w e
    have bounded' := effect.bounded bounded
    rcases effect.not_live bounded (by simp [hr]) (Ne.symm unsubmitted.1) with gone | ht
    · exact unknown_run (w := w.step e) bounded' gone unsubmitted.2 unburied.1
    · obtain ⟨-, -, inside⟩ := (effect.tombstone bounded id).1 ht
      exact ih bounded' ht unsubmitted.2 unburied.1 (leaves.resolve_right inside)

/-- While a cancelled id waits for its submission, the oldest of the ids in the queue leave it. -/
theorem departures_cancel (hr : w.service.records[id]? = none) (interrupt : Bool)
    (few : ((w.step (.cancel id interrupt)).burials es).length < tombstoneLimit) :
    w.departures (.cancel id interrupt :: es) = w.service.tombstones.drop
      (tombstoneLimit - (((w.step (.cancel id interrupt)).burials es).length + 1)) := by
  have buried : w.buries? (.cancel id interrupt) = some id := if_pos hr
  rw [departures, burials_cons, buried, Option.toList_some, List.drop_append,
    List.drop_of_length_le, List.nil_append, List.length_append, List.length_singleton]
  rw [List.length_append, List.length_singleton]
  exact few

/-- Until its next submission a cancelled id has a tombstone, unless an old entry of it leaves the
queue meanwhile. -/
theorem tombstone_after_cancel (bounded : w.service.Bounded)
    (unknown : w.service.records[id]? = none) (interrupt : Bool)
    (unsubmitted : Event.submit id ∉ es) :
    let v := (w.step (.cancel id interrupt)).run es
    (id ∉ w.departures (.cancel id interrupt :: es) →
      v.service.records[id]? = some .tombstone) ∧
    (id ∈ w.departures (.cancel id interrupt :: es) →
      id ∉ (w.step (.cancel id interrupt)).burials es → v.service.records[id]? = none) := by
  intro v
  have effect := effect_step w (.cancel id interrupt)
  have bounded' := effect.bounded bounded
  have buried : w.buries? (.cancel id interrupt) = some id := if_pos unknown
  rw [departures_cons bounded, List.mem_append, Option.mem_toList]
  refine ⟨fun stays => ?_, fun leaves unburied => ?_⟩
  · rw [not_or] at stays
    have ht := (effect.tombstone bounded id).2 ⟨.inl buried, by simp, stays.2⟩
    exact tombstone_run bounded' ht unsubmitted stays.1
  · have quiet (c : Nat) : w.service.records[id]? ≠ some (.live c) := by simp [unknown]
    rcases effect.not_live bounded quiet (by simp) with gone | ht
    · exact unknown_run bounded' gone unsubmitted unburied
    · obtain ⟨-, -, inside⟩ := (effect.tombstone bounded id).1 ht
      exact tombstone_lost bounded' ht unsubmitted unburied (leaves.resolve_right inside)

/-! ## The next submission -/

theorem invoked_step_submit (w : Workshop) (id : String) :
    (w.step (.submit id)).invoked = w.invoked := by
  simp only [step]
  split <;> rfl

/-- A task that has ended does not begin any more. -/
theorem not_invoked_run (hc : w.service.cell? c = some t) (ended : t.state.isTerminal = true)
    (before : c ∉ w.invoked) (es : List Event) : c ∉ (w.run es).invoked := by
  induction es generalizing w t with
  | nil => exact before
  | cons e es ih =>
    obtain ⟨t', hc', later⟩ := (follows_step w e).cells c t hc
    have ended' : t'.state.isTerminal = true := by rwa [TaskCell.state, later.ended ended]
    refine ih hc' ended' ?_
    rcases (moves_step w e).invoked with same | ⟨d, new, submitted, -⟩
    · rwa [same]
    · rw [new, List.mem_cons, not_or]
      refine ⟨?_, before⟩
      rintro rfl
      obtain ⟨u, hu, submitted⟩ := Option.map_eq_some_iff.1 submitted
      rw [hc] at hu
      cases hu
      rw [submitted] at ended
      cases ended

/-- A submission that meets a tombstone is cancelled for good. -/
theorem Orderly.submit_tombstone (orderly : w.Orderly)
    (hr : w.service.records[id]? = some .tombstone) :
    let v := w.step (.submit id)
    ∃ c, (w.service.submit id).1 = .settled c ∧ v.idOf? c = some id ∧
      v.stateOf? c = some .cancelled ∧ ∀ es, c ∉ (v.run es).invoked := by
  intro v
  have settled : (w.service.submit id).1 = .settled w.service.cells.length := by
    rw [submit_of_tombstone hr]
  have named := orderly.idOf?_submit id
  rw [settled] at named
  have hc : v.service.cell? w.service.cells.length = some (.newCancelled id) := by
    rw [service_step_submit, submit_of_tombstone hr, (forgets_retire _ _).cell?, cell?_register,
      if_pos rfl]
  have cancelled : v.stateOf? w.service.cells.length = some .cancelled := by
    rw [stateOf?, hc]
    rfl
  refine ⟨_, settled, named, cancelled, not_invoked_run hc rfl ?_⟩
  rw [invoked_step_submit]
  intro begun
  obtain ⟨t, ht, -⟩ := orderly.begun _ begun
  simp [cell?] at ht

/-- A submission under an unknown id is taken up by a worker. -/
theorem submit_unknown (hr : w.service.records[id]? = none) :
    let v := w.step (.submit id)
    ∃ c, (w.service.submit id).1 = .fresh c ∧ v.stateOf? c = some .submitted ∧
      c ∈ (v.run [.grant c, .start c]).invoked := by
  intro v
  have new : (w.service.register (.new id)).2.cell? w.service.cells.length = some (.new id) := by
    rw [cell?_register, if_pos rfl]
  refine ⟨w.service.cells.length, by rw [submit_of_none hr], ?_, ?_⟩
  · rw [stateOf?, service_step_submit, submit_of_none hr, new]
    rfl
  · have admitted : (TaskCell.new id).start.1 = true := rfl
    simp [v, run, step, submit_of_none hr, TaskService.start, new, admitted]

/-- A cancellation of an unknown id leaves a tombstone. While fewer tombstones than their limit
are recorded after it, the next submission of the id is cancelled and its handler never invoked,
unless an entry of the id is among the oldest in the queue, which leave it meanwhile. If one is,
the tombstone is lost and the submission is worked on. -/
theorem next_submit_cancelled (limit : Nat) (past : List Event) (id : String) (interrupt : Bool)
    (es : List Event) (unknown : ((new limit).run past).service.records[id]? = none)
    (unsubmitted : Event.submit id ∉ es) :
    let w := (new limit).run past
    let v := (w.step (.cancel id interrupt)).run es
    let newer := (w.step (.cancel id interrupt)).burials es
    let oldest := w.service.tombstones.drop (tombstoneLimit - (newer.length + 1))
    newer.length < tombstoneLimit →
    (id ∉ oldest → ∃ c, (v.service.submit id).1 = .settled c ∧
      (v.step (.submit id)).idOf? c = some id ∧
      (v.step (.submit id)).stateOf? c = some .cancelled ∧
      ∀ more, c ∉ ((v.step (.submit id)).run more).invoked) ∧
    (id ∈ oldest → id ∉ newer → ∃ c, (v.service.submit id).1 = .fresh c ∧
      (v.step (.submit id)).stateOf? c = some .submitted ∧
      c ∈ ((v.step (.submit id)).run [.grant c, .start c]).invoked) := by
  intro w v newer oldest few
  have bounded : w.service.Bounded := (recalls_run limit past).bounded
  have orderly : v.Orderly := (((orderly_new limit).run past).step _).run es
  have leaving : w.departures (.cancel id interrupt :: es) = oldest :=
    departures_cancel unknown interrupt few
  have record := tombstone_after_cancel bounded unknown interrupt unsubmitted
  rw [leaving] at record
  exact ⟨fun stays => orderly.submit_tombstone (record.1 stays),
    fun leaves unburied => submit_unknown (record.2 leaves unburied)⟩

/-- The id was cancelled and submitted once before, and its record forgotten since. -/
theorem next_submit_cancelled_again :
    let w := (new 1).run [.cancel "x" false, .submit "x", .cancel "y" false, .submit "y"]
    let v := (w.step (.cancel "x" false)).run [.cancel "z" false]
    "x" ∈ w.service.tombstones ∧ w.service.records["x"]? = none ∧
      ∃ c, (v.service.submit "x").1 = .settled c ∧
        (v.step (.submit "x")).stateOf? c = some .cancelled ∧
        ∀ more, c ∉ ((v.step (.submit "x")).run more).invoked := by
  obtain ⟨c, settled, -, cancelled, quiet⟩ := (next_submit_cancelled 1
    [.cancel "x" false, .submit "x", .cancel "y" false, .submit "y"] "x" false [.cancel "z" false]
    (by decide) (by simp) (by decide)).1 (by decide)
  exact ⟨by decide, by decide, c, settled, cancelled, quiet⟩

/-! ## A lost tombstone -/

/-- Cancelling unknown ids, each once, records a tombstone for each of them. -/
theorem burials_cancel (bounded : w.service.Bounded) {ids : List String} (distinct : ids.Nodup)
    (unknown : ∀ a ∈ ids, w.service.records[a]? = none) (interrupt : Bool) :
    w.burials (ids.map (.cancel · interrupt)) = ids.reverse := by
  induction ids generalizing w with
  | nil => rfl
  | cons a ids ih =>
    rw [List.nodup_cons] at distinct
    have buried : w.buries? (.cancel a interrupt) = some a := if_pos (unknown a List.mem_cons_self)
    have bounded' := (effect_step w (.cancel a interrupt)).bounded bounded
    rw [List.map_cons, burials_cons, buried, ih bounded' distinct.2, List.reverse_cons]
    · rfl
    · intro b hb
      have other : a ≠ b := by
        rintro rfl
        exact distinct.1 hb
      change (w.run [.cancel a interrupt]).service.records[b]? = none
      refine unknown_run bounded (unknown b (List.mem_cons_of_mem _ hb)) (by simp) ?_
      rw [burials_cons, buried]
      simpa [burials, notes] using Ne.symm other

/-- When the queue is full but for one and an id is its oldest entry, a new tombstone of the id is
lost with the next one that is recorded. -/
theorem tombstone_lost_next {other : String} {queue : List String} (bounded : w.service.Bounded)
    (hid : w.service.records[id]? = none) (hother : w.service.records[other]? = none)
    (ne : id ≠ other) (hq : w.service.tombstones = queue ++ [id])
    (full : queue.length + 2 = tombstoneLimit) (interrupt : Bool) :
    (w.step (.cancel id interrupt)).burials [.cancel other interrupt] = [other] ∧
      ((w.step (.cancel id interrupt)).run [.cancel other interrupt]).service.records[id]? =
        none := by
  have pair : w.burials [.cancel id interrupt, .cancel other interrupt] = [other] ++ [id] :=
    burials_cancel bounded (show [id, other].Nodup by simpa using ne)
      (List.forall_mem_cons.2 ⟨hid, List.forall_mem_singleton.2 hother⟩) interrupt
  have newer : (w.step (.cancel id interrupt)).burials [.cancel other interrupt] = [other] := by
    have buried : w.buries? (.cancel id interrupt) = some id := if_pos hid
    rw [burials_cons, buried] at pair
    exact List.append_cancel_right pair
  have leaves : id ∈ w.departures [.cancel id interrupt, .cancel other interrupt] := by
    rw [departures, pair, hq, ← List.append_assoc, List.drop_left' (by simpa using by omega)]
    exact List.mem_singleton_self id
  refine ⟨newer, (tombstone_after_cancel bounded hid interrupt (by simp)).2 leaves ?_⟩
  rw [newer]
  simpa using ne

/-- An id whose first tombstone is the oldest entry of a full queue but one: its second tombstone
is lost with the one recorded next, and what is submitted then runs. -/
theorem next_submit_runs :
    let others := (List.range 9997).map fun n => "t" ++ toString n
    let w := (new 1).run ([.cancel "x" true, .submit "x", .cancel "y" true, .submit "y"] ++
      others.map (.cancel · true))
    let v := (w.step (.cancel "x" true)).run [.cancel "z" true]
    w.service.records["x"]? = none ∧
      (w.step (.cancel "x" true)).burials [.cancel "z" true] = ["z"] ∧
      ∃ c, (v.service.submit "x").1 = .fresh c ∧
        (v.step (.submit "x")).stateOf? c = some .submitted ∧
        c ∈ ((v.step (.submit "x")).run [.grant c, .start c]).invoked := by
  intro others w v
  let start : List Event := [.cancel "x" true, .submit "x", .cancel "y" true, .submit "y"]
  let u := (new 1).run start
  have first (a : String) (ha : a ∈ others) : a.toList.head? = some 't' := by
    obtain ⟨n, -, rfl⟩ := List.mem_map.1 ha
    simp [String.toList_append]
  have distinct : others.Nodup := by
    refine List.nodup_range.map fun m n same => ?_
    exact Nat.repr_inj.1 (by simpa using same)
  have count : others.length = 9997 := by rw [List.length_map, List.length_range]
  have started : (new 1).burials start = ["y", "x"] := by decide
  have unknown (a : String) (hx : a ≠ "x") (hy : a ≠ "y") : u.service.records[a]? = none :=
    unknown_run (recalls_new 1).bounded (by simp [new]) (by simp [start, hx, hy])
      (by rw [started]; simp [hx, hy])
  have absent (a : String) (ha : a.toList.head? ≠ some 't') : a ∉ others := fun mem =>
    ha (first a mem)
  have begun : Recalls 1 u _ _ := recalls_run 1 start
  have crowd : u.burials (others.map (.cancel · true)) = others.reverse := by
    refine burials_cancel begun.bounded distinct (fun a ha => unknown a ?_ ?_) true
    · rintro rfl
      exact absent "x" (by decide) ha
    · rintro rfl
      exact absent "y" (by decide) ha
  have joined : w = u.run (others.map (.cancel · true)) := run_append _ _ _
  have still (a : String) (hu : u.service.records[a]? = none) (ha : a ∉ others) :
      w.service.records[a]? = none := by
    rw [joined]
    exact unknown_run begun.bounded hu (by simp) (by rw [crowd]; simpa using ha)
  have hx : w.service.records["x"]? = none := still "x" (by decide) (absent "x" (by decide))
  have hz : w.service.records["z"]? = none :=
    still "z" (unknown "z" (by decide) (by decide)) (absent "z" (by decide))
  have recalls := begun.run (others.map (.cancel · true))
  rw [← joined, crowd, started] at recalls
  have queue : w.service.tombstones = (others.reverse ++ ["y"]) ++ ["x"] := by
    have short : (others.reverse ++ ["y", "x"]).length ≤ tombstoneLimit := by
      simp [count, tombstoneLimit]
    rw [recalls.tombstones, List.take_of_length_le short, List.append_assoc, List.singleton_append]
  obtain ⟨newer, gone⟩ := tombstone_lost_next recalls.bounded hx hz (by decide) queue
    (by simp [count, tombstoneLimit]) true
  exact ⟨hx, newer, submit_unknown gone⟩

end Workshop

end DataGrid
