import DataGrid.Pool.Basic
import DataGrid.Proofs.Run
import Mathlib.Data.List.Nodup
import Mathlib.Data.List.Perm.Subperm
import Mathlib.Logic.Function.Basic

/-!
# Accounting for slots

The jobs of a pool, one step of any of them at a time and in any order: they are submitted, have
turns, return, and their tokens fire or they are aborted in between. Main statement: every slot is
free or held by one job that has not ended, and a job only works with a slot (`Orderly.run`).
-/

namespace DataGrid

theorem map_modify_of_keeps {α β : Type} {f : α → α} {g : α → β} (keeps : ∀ a, g (f a) = g a)
    (l : List α) (i : Nat) : (l.modify i f).map g = l.map g := by
  apply List.ext_getElem?
  intro j
  rw [List.getElem?_map, List.getElem?_map, List.getElem?_modify]
  cases l[j]? with
  | none => rfl
  | some a =>
    by_cases h : i = j <;> simp [h, keeps]

/-! ## Slots -/

namespace Slots

variable {s : Slots} {g : Nat → Option Stage} {i j : Nat}

/-- The slots and the line are as the stages of the jobs say. -/
structure Serves (s : Slots) (g : Nat → Option Stage) : Prop where
  accounted : s.Accounted
  nodup : (s.holding ++ s.waiting).Nodup
  inLine : ∀ i ∈ s.waiting, g i = some .waiting
  held : ∀ i ∈ s.holding, g i = some .waiting ∨ g i = some .working
  working : ∀ i, g i = some .working → i ∈ s.holding

theorem serves_ofCapacity (n : Nat) : (ofCapacity n).Serves fun _ => none where
  accounted := accounted_ofCapacity n
  nodup := by simp [ofCapacity]
  inLine := by simp [ofCapacity]
  held := by simp [ofCapacity]
  working := by simp

theorem Serves.not_mem_holding (h : s.Serves g) (early : g i ≠ some .waiting)
    (idle : g i ≠ some .working) : i ∉ s.holding :=
  fun hi => (h.held i hi).elim early idle

theorem Serves.not_mem_waiting (h : s.Serves g) (hi : g i ≠ some .waiting) : i ∉ s.waiting :=
  fun w => hi (h.inLine i w)

/-- A job without a slot and not in line may go to any stage but work. -/
theorem Serves.away (h : s.Serves g) (free : i ∉ s.holding) (out : i ∉ s.waiting) {t : Stage}
    (ht : t ≠ .working) : s.Serves (Function.update g i (some t)) where
  accounted := h.accounted
  nodup := h.nodup
  inLine j hj := by
    have other : j ≠ i := fun e => out (e.subst hj)
    rw [Function.update_of_ne other]
    exact h.inLine j hj
  held j hj := by
    have other : j ≠ i := fun e => free (e.subst hj)
    rw [Function.update_of_ne other]
    exact h.held j hj
  working j hj := by
    by_cases e : j = i
    · subst e
      simp [ht] at hj
    · rw [Function.update_of_ne e] at hj
      exact h.working j hj

/-- A job that got a slot begins. -/
theorem Serves.claim (h : s.Serves g) (holds : i ∈ s.holding) :
    s.Serves (Function.update g i (some .working)) where
  accounted := h.accounted
  nodup := h.nodup
  inLine j hj := by
    have other : j ≠ i := fun e => List.disjoint_of_nodup_append h.nodup holds (e.subst hj)
    rw [Function.update_of_ne other]
    exact h.inLine j hj
  held j hj := by
    by_cases e : j = i
    · exact .inr (by simp [e])
    · rw [Function.update_of_ne e]
      exact h.held j hj
  working j hj := by
    by_cases e : j = i
    · exact e.symm.subst holds
    · rw [Function.update_of_ne e] at hj
      exact h.working j hj

/-- Who asks for a slot works if there is one, and waits otherwise. -/
theorem Serves.acquire (h : s.Serves g) (free : i ∉ s.holding) (out : i ∉ s.waiting) :
    (s.acquire i).Serves (Function.update g i
      (some (if i ∈ (s.acquire i).holding then .working else .waiting))) := by
  obtain ⟨accounted, nodup, inLine, held, working⟩ := h
  refine ⟨accounted.acquire i, ?_, ?_, ?_, ?_⟩ <;> unfold Slots.acquire <;> split
  all_goals grind [Function.update_apply]

theorem Serves.release (h : s.Serves g) (out : i ∉ s.waiting) :
    (s.release i).Serves (Function.update g i (some .ended)) := by
  by_cases holds : i ∈ s.holding
  · obtain ⟨accounted, nodup, inLine, held, working⟩ := h
    refine ⟨accounted.release i, ?_, ?_, ?_, ?_⟩ <;> rw [Slots.release, if_pos holds] <;> split
    all_goals grind [Function.update_apply]
  · rw [Slots.release, if_neg holds]
    exact h.away holds out (by simp)

theorem Serves.withdraw (h : s.Serves g) :
    (s.withdraw i).Serves (Function.update g i (some .ended)) := by
  by_cases line : i ∈ s.waiting
  · obtain ⟨accounted, nodup, inLine, held, working⟩ := h
    rw [Slots.withdraw, if_pos line]
    have left : (s.holding ++ s.waiting.erase i).Nodup :=
      nodup.sublist (.append (.refl _) List.erase_sublist)
    refine ⟨accounted, left, ?_, ?_, ?_⟩
    all_goals grind [Function.update_apply]
  · rw [Slots.withdraw, if_neg line]
    exact h.release line

@[simp] theorem capacity_acquire (s : Slots) (i : Nat) : (s.acquire i).capacity = s.capacity := by
  unfold acquire; split <;> rfl

@[simp] theorem capacity_release (s : Slots) (i : Nat) : (s.release i).capacity = s.capacity := by
  unfold release; repeat' split
  all_goals rfl

@[simp] theorem capacity_withdraw (s : Slots) (i : Nat) :
    (s.withdraw i).capacity = s.capacity := by
  unfold withdraw; split <;> simp

/-- A slot that is given back goes to the first in line, or is free. -/
theorem release_of_mem (h : i ∈ s.holding) :
    (s.release i).free = s.free + 1 ∨
      ∃ k, s.waiting.head? = some k ∧ k ∈ (s.release i).holding := by
  rw [release, if_pos h]
  split
  · next k r line => exact .inr ⟨k, by simp [line], by simp⟩
  · exact .inl rfl

end Slots

namespace PoolJob

/-- What may become of the flags of a job. -/
structure Later (j j' : PoolJob) : Prop where
  blocking : j'.blocking = j.blocking
  fired : j.fired = true → j'.fired = true
  aborted : j.aborted = true → j'.aborted = true

theorem Later.isCalledOff {j j' : PoolJob} (h : j.Later j') (off : j.isCalledOff = true) :
    j'.isCalledOff = true := by
  unfold PoolJob.isCalledOff at *
  rw [Bool.or_eq_true] at *
  exact off.imp h.fired h.aborted

end PoolJob

namespace Pool

inductive Event where
  | submit (blocking : Bool)
  /-- The token of a job fires; one that several jobs share fires for each of them. -/
  | fire (job : Nat)
  | abort (job : Nat)
  | turn (job : Nat)
  /-- The work of a job returns. -/
  | complete (job : Nat)
deriving DecidableEq

def step (p : Pool) : Event → Pool
  | .submit blocking => p.submit blocking
  | .fire i => p.fire i
  | .abort i => p.abort i
  | .turn i => p.turn i
  | .complete i => p.complete i

def run (p : Pool) (es : List Event) : Pool := es.foldl step p

/-- The jobs at work. -/
def working (p : Pool) : List Nat :=
  (List.range p.jobs.length).filter (p.stage? · = some .working)

/-- The work of a job begins. -/
def begins (i : Nat) (p : Pool) (e : Event) : Bool :=
  p.stage? i != some .working && (p.step e).stage? i == some .working

variable {p : Pool} {e : Event} {es : List Event} {i : Nat} {j : PoolJob} {s : Slots}
  {g : Nat → Option Stage}

/-! ## Stages -/

theorem stage?_submit (p : Pool) (blocking : Bool) :
    (p.submit blocking).stage? = Function.update p.stage? p.jobs.length (some .submitted) := by
  funext k
  simp only [stage?, submit, List.getElem?_append, Function.update_apply]
  split
  · next old => rw [if_neg (by omega)]
  · next new =>
    by_cases last : k = p.jobs.length
    · simp [last]
    · rw [if_neg last, List.getElem?_eq_none (by simp; omega), List.getElem?_eq_none (by omega)]

theorem stage?_setStage (known : p.jobs[i]? = some j) (t : Stage) :
    (p.setStage i t).stage? = Function.update p.stage? i (some t) := by
  funext k
  simp only [stage?, setStage, modifyJob, List.getElem?_modify, Function.update_apply]
  by_cases here : i = k
  · subst here
    simp [known]
  · simp [here, Ne.symm here]

theorem stage?_setStage_slots (known : p.jobs[i]? = some j) (s : Slots) (t : Stage) :
    ({ p with slots := s }.setStage i t).stage? = Function.update p.stage? i (some t) :=
  stage?_setStage (p := { p with slots := s }) known t

theorem stage?_modifyJob {f : PoolJob → PoolJob} (keeps : ∀ j, (f j).stage = j.stage) :
    (p.modifyJob i f).stage? = p.stage? := by
  funext k
  have kept := congrArg (·[k]?) (map_modify_of_keeps keeps p.jobs i)
  simpa only [stage?, modifyJob, List.getElem?_map] using kept

theorem stage?_complete (works : p.stage? i = some .working) :
    (p.complete i).stage? i = some .ended := by
  obtain ⟨j, known, -⟩ := Option.map_eq_some_iff.1 works
  simp [complete, works, stage?_setStage_slots known]

/-- What a step comes to for the slots and the stages. -/
inductive Moves (p : Pool) : Event → Slots → (Nat → Option Stage) → Prop
  | submitted (blocking : Bool) :
      Moves p (.submit blocking) p.slots
        (Function.update p.stage? p.jobs.length (some .submitted))
  | calledOff {i : Nat} {j : PoolJob} (known : p.jobs[i]? = some j) (new : j.stage = .submitted)
      (off : j.isCalledOff = true) :
      Moves p (.turn i) p.slots (Function.update p.stage? i (some .ended))
  | asked {i : Nat} {j : PoolJob} (known : p.jobs[i]? = some j) (new : j.stage = .submitted)
      (on : j.isCalledOff = false) :
      Moves p (.turn i) (p.slots.acquire i) (Function.update p.stage? i
        (some (if i ∈ (p.slots.acquire i).holding then .working else .waiting)))
  | withdrawn {i : Nat} {j : PoolJob} (known : p.jobs[i]? = some j) (waits : j.stage = .waiting)
      (off : j.isCalledOff = true) :
      Moves p (.turn i) (p.slots.withdraw i) (Function.update p.stage? i (some .ended))
  | served {i : Nat} {j : PoolJob} (known : p.jobs[i]? = some j) (waits : j.stage = .waiting)
      (on : j.isCalledOff = false) (holds : i ∈ p.slots.holding) :
      Moves p (.turn i) p.slots (Function.update p.stage? i (some .working))
  | dropped {i : Nat} {j : PoolJob} (known : p.jobs[i]? = some j) (works : j.stage = .working)
      (aborted : j.aborted = true) (async : j.blocking = false) :
      Moves p (.turn i) (p.slots.release i) (Function.update p.stage? i (some .ended))
  | returned {i : Nat} (works : p.stage? i = some .working) :
      Moves p (.complete i) (p.slots.release i) (Function.update p.stage? i (some .ended))
  | idle (e : Event) : Moves p e p.slots p.stage?

theorem moves_turn (p : Pool) (i : Nat) :
    p.Moves (.turn i) (p.turn i).slots (p.turn i).stage? := by
  unfold turn
  split
  · exact .idle _
  · next j known =>
    split
    · next new =>
      split
      · next off =>
        rw [stage?_setStage known]
        exact .calledOff known new off
      · next on =>
        rw [claim, stage?_setStage_slots known]
        exact .asked known new (by simpa using on)
    · next waits =>
      split
      · next off =>
        rw [stage?_setStage_slots known]
        exact .withdrawn known waits off
      · next on =>
        rw [claim, stage?_setStage known]
        split
        · next holds => exact .served known waits (by simpa using on) holds
        · have same : Function.update p.stage? i (some .waiting) = p.stage? := by
            rw [Function.update_eq_self_iff, stage?, known, Option.map_some, waits]
          rw [same]
          exact .idle _
    · next works =>
      split
      · next off =>
        rw [Bool.and_eq_true, Bool.not_eq_true'] at off
        rw [stage?_setStage_slots known]
        exact .dropped known works off.1 off.2
      · exact .idle _
    · exact .idle _

theorem moves_step (p : Pool) (e : Event) : p.Moves e (p.step e).slots (p.step e).stage? := by
  cases e with
  | submit blocking =>
    simp only [step, stage?_submit]
    exact .submitted blocking
  | fire i =>
    have kept : (p.fire i).stage? = p.stage? := stage?_modifyJob fun _ => rfl
    rw [step, kept]
    exact .idle _
  | abort i =>
    have kept : (p.abort i).stage? = p.stage? := stage?_modifyJob fun _ => rfl
    rw [step, kept]
    exact .idle _
  | turn i => exact moves_turn p i
  | complete i =>
    simp only [step, complete]
    split
    · next works =>
      obtain ⟨j, known, -⟩ := Option.map_eq_some_iff.1 works
      rw [stage?_setStage_slots known]
      exact .returned works
    · exact .idle _

theorem stage?_of_known (known : p.jobs[i]? = some j) : p.stage? i = some j.stage := by
  simp [stage?, known]

theorem stage?_length (p : Pool) : p.stage? p.jobs.length = none := by simp [stage?]

/-- Only a job that was not called off before its turn comes to work. -/
theorem Moves.works (h : p.Moves e s g) (works : g i = some .working) :
    p.stage? i = some .working ∨ ∃ j, p.jobs[i]? = some j ∧ j.isCalledOff = false ∧
      (j.stage = .submitted ∨ j.stage = .waiting) := by
  cases h with
  | submitted => grind [Function.update_apply]
  | idle => exact .inl works
  | asked | calledOff | withdrawn | served | dropped | returned => grind [Function.update_apply]

/-- A job that has begun leaves its stage when it is dropped or its work returns. -/
theorem Moves.late (h : p.Moves e s g)
    (late : p.stage? i = some .working ∨ p.stage? i = some .ended) :
    g i = p.stage? i ∨ g i = some .ended ∧ p.stage? i = some .working ∧
      (e = .complete i ∨ ∀ j, p.jobs[i]? = some j → j.blocking = false) := by
  cases h with
  | submitted => grind [Function.update_apply, stage?_length]
  | idle => exact .inl rfl
  | asked known | calledOff known | withdrawn known | served known | dropped known =>
    have := stage?_of_known known
    grind [Function.update_apply]
  | returned => grind [Function.update_apply]

/-- Work is not taken up again. -/
theorem Moves.begun (h : p.Moves e s g)
    (begun : p.stage? i = some .working ∨ p.stage? i = some .ended) :
    g i = some .working ∨ g i = some .ended := by
  rcases h.late begun with same | ⟨ended, -⟩
  · rwa [same]
  · exact .inr ended

theorem Moves.ended (h : p.Moves e s g) (ended : p.stage? i = some .ended) :
    g i = some .ended := by
  rcases h.late (.inr ended) with same | ⟨ended, -⟩
  · rwa [same]
  · exact ended

/-- Blocking work goes on until it returns. -/
theorem Moves.blocking (h : p.Moves e s g) (known : p.jobs[i]? = some j)
    (blocks : j.blocking = true) (works : p.stage? i = some .working) (goesOn : e ≠ .complete i) :
    g i = some .working := by
  rcases h.late (.inl works) with same | ⟨-, -, returns | async⟩
  · rwa [same]
  · exact absurd returns goesOn
  · cases blocks.symm.trans (async j known)

/-! ## Flags -/

theorem getElem?_setStage (k : Nat) (t : Stage) (known : p.jobs[i]? = some j) :
    ∃ j', (p.setStage k t).jobs[i]? = some j' ∧ j'.blocking = j.blocking ∧ j'.fired = j.fired ∧
      j'.aborted = j.aborted := by
  simp only [setStage, modifyJob, List.getElem?_modify, known]
  by_cases here : k = i
  · exact ⟨{ j with stage := t }, by simp [here], rfl, rfl, rfl⟩
  · exact ⟨j, by simp [here], rfl, rfl, rfl⟩

/-- What a step does to the flags of a job. -/
theorem flags_step (known : p.jobs[i]? = some j) (e : Event) :
    ∃ j', (p.step e).jobs[i]? = some j' ∧ j'.blocking = j.blocking ∧
      j'.fired = (j.fired || decide (e = .fire i)) ∧
      j'.aborted = (j.aborted || decide (e = .abort i)) := by
  cases e with
  | submit blocking =>
    obtain ⟨lt, -⟩ := List.getElem?_eq_some_iff.1 known
    exact ⟨j, by rw [step, submit, List.getElem?_append_left lt, known], by simp⟩
  | fire k =>
    simp only [step, fire, modifyJob, List.getElem?_modify, known]
    by_cases here : k = i
    · exact ⟨{ j with fired := true }, by simp [here], by simp [here]⟩
    · exact ⟨j, by simp [here], by simp [here]⟩
  | abort k =>
    simp only [step, abort, modifyJob, List.getElem?_modify, known]
    by_cases here : k = i
    · exact ⟨{ j with aborted := true }, by simp [here], by simp [here]⟩
    · exact ⟨j, by simp [here], by simp [here]⟩
  | turn k =>
    simp only [step, turn, claim, reduceCtorEq, decide_false, Bool.or_false]
    split
    · exact ⟨j, known, rfl, rfl, rfl⟩
    · split
      · split <;> exact getElem?_setStage k _ known
      · split <;> exact getElem?_setStage k _ known
      · split
        · exact getElem?_setStage k _ known
        · exact ⟨j, known, rfl, rfl, rfl⟩
      · exact ⟨j, known, rfl, rfl, rfl⟩
  | complete k =>
    simp only [step, complete, reduceCtorEq, decide_false, Bool.or_false]
    split
    · exact getElem?_setStage k _ known
    · exact ⟨j, known, rfl, rfl, rfl⟩

theorem later_step (known : p.jobs[i]? = some j) (e : Event) :
    ∃ j', (p.step e).jobs[i]? = some j' ∧ j.Later j' := by
  obtain ⟨j', known', blocking, fired, aborted⟩ := flags_step known e
  exact ⟨j', known', blocking, by simp_all, by simp_all⟩

/-! ## Runs -/

/-- What holds of a pool at any time. -/
def Orderly (p : Pool) : Prop := p.slots.Serves p.stage?

theorem orderly_ofCapacity (n : Nat) : (ofCapacity n).Orderly := Slots.serves_ofCapacity n

theorem Orderly.moves (h : p.Orderly) (moves : p.Moves e s g) : s.Serves g := by
  change p.slots.Serves p.stage? at h
  have away {i : Nat} (new : p.stage? i = none ∨ p.stage? i = some .submitted) :
      i ∉ p.slots.holding ∧ i ∉ p.slots.waiting :=
    ⟨h.not_mem_holding (by grind) (by grind), h.not_mem_waiting (by grind)⟩
  have apart {i : Nat} (works : p.stage? i = some .working) : i ∉ p.slots.waiting :=
    h.not_mem_waiting (by simp [works])
  cases moves with
  | submitted =>
    obtain ⟨free, out⟩ := away (.inl p.stage?_length)
    exact h.away free out (by simp)
  | calledOff known new =>
    obtain ⟨free, out⟩ := away (.inr (new ▸ stage?_of_known known))
    exact h.away free out (by simp)
  | asked known new =>
    obtain ⟨free, out⟩ := away (.inr (new ▸ stage?_of_known known))
    exact h.acquire free out
  | withdrawn => exact h.withdraw
  | served _ _ _ holds => exact h.claim holds
  | dropped known works => exact h.release (apart (works ▸ stage?_of_known known))
  | returned works => exact h.release (apart works)
  | idle => exact h

theorem Orderly.step (h : p.Orderly) (e : Event) : (p.step e).Orderly := h.moves (moves_step p e)

theorem Orderly.run (h : p.Orderly) (es : List Event) : (p.run es).Orderly := by
  induction es generalizing p with
  | nil => exact h
  | cons e es ih => exact ih (h.step e)

theorem capacity_step (p : Pool) (e : Event) : (p.step e).slots.capacity = p.slots.capacity := by
  have moves := p.moves_step e
  generalize (p.step e).slots = s, (p.step e).stage? = g at moves
  cases moves <;> simp

theorem capacity_run (p : Pool) (es : List Event) :
    (p.run es).slots.capacity = p.slots.capacity := by
  induction es generalizing p with
  | nil => rfl
  | cons e es ih => exact (ih (p.step e)).trans (p.capacity_step e)

theorem run_append (p : Pool) (es es' : List Event) : p.run (es ++ es') = (p.run es).run es' :=
  List.foldl_append

theorem run_ended (ended : p.stage? i = some .ended) (es : List Event) :
    (p.run es).stage? i = some .ended := by
  induction es generalizing p with
  | nil => exact ended
  | cons e es ih => exact ih ((p.moves_step e).ended ended)

theorem later_run (known : p.jobs[i]? = some j) (es : List Event) :
    ∃ j', (p.run es).jobs[i]? = some j' ∧ j.Later j' := by
  induction es generalizing p j with
  | nil => exact ⟨j, known, rfl, id, id⟩
  | cons e es ih =>
    obtain ⟨k, hk, later⟩ := later_step known e
    obtain ⟨j', known', later'⟩ := ih hk
    exact ⟨j', known', later'.blocking.trans later.blocking, later'.fired ∘ later.fired,
      later'.aborted ∘ later.aborted⟩

theorem length_working_le (h : p.Orderly) : p.working.length ≤ p.slots.capacity := by
  have distinct : p.working.Nodup := List.nodup_range.filter _
  have held : p.working ⊆ p.slots.holding := by
    intro i hi
    simp only [working, List.mem_filter, decide_eq_true_eq] at hi
    exact h.working i hi.2
  have length := (List.subperm_of_subset distinct held).length_le
  have accounted : p.slots.free + p.slots.holding.length = p.slots.capacity := h.accounted
  omega

theorem begins_iff : begins i p e = true ↔
    p.stage? i ≠ some .working ∧ (p.step e).stage? i = some .working := by
  simp [begins]

/-- The work of a job begins once at most. -/
theorem count_begins (p : Pool) (i : Nat) (es : List Event) :
    Run.count step (begins i) p es ≤ 1 := by
  refine Run.count_le_one step
    (F := fun p : Pool => ¬ (p.stage? i = some .working ∨ p.stage? i = some .ended))
    (fun p e h => ?_) (fun p e h => ?_) p es
  · obtain ⟨idle, works⟩ := begins_iff.1 h
    refine ⟨fun past => ?_, fun h => h (.inl works)⟩
    rcases (p.moves_step e).works works with before | ⟨j, known, -, early⟩
    · exact idle before
    · have stage := stage?_of_known known
      grind
  · rw [not_not] at h ⊢
    exact (p.moves_step e).begun h

/-- A job that is called off before its work has begun does not work any more. -/
theorem run_calledOff (known : p.jobs[i]? = some j) (off : j.isCalledOff = true)
    (early : j.stage ≠ .working) (es : List Event) : (p.run es).stage? i ≠ some .working := by
  have idle : p.stage? i ≠ some .working := by simpa [stage?_of_known known] using early
  clear early
  induction es generalizing p j with
  | nil => exact idle
  | cons e es ih =>
    obtain ⟨j', known', later⟩ := later_step known e
    refine ih known' (later.isCalledOff off) fun works => ?_
    rcases (p.moves_step e).works works with before | ⟨k, hk, on, -⟩
    · exact idle before
    · rw [known] at hk
      cases hk
      simp [off] at on

/-- Blocking work keeps its slot until it returns. -/
theorem run_blocking (known : p.jobs[i]? = some j) (blocks : j.blocking = true)
    (works : p.stage? i = some .working) (goesOn : .complete i ∉ es) :
    (p.run es).stage? i = some .working := by
  induction es generalizing p j with
  | nil => exact works
  | cons e es ih =>
    rw [List.mem_cons, not_or] at goesOn
    obtain ⟨j', known', later⟩ := later_step known e
    exact ih known' (later.blocking.trans blocks)
      ((p.moves_step e).blocking known blocks works (Ne.symm goesOn.1)) goesOn.2

/-- An aborted job without blocking work ends at its next turn, and a slot that it has goes to the
first in line or is free. -/
theorem turn_aborted (h : p.Orderly) (known : p.jobs[i]? = some j) (aborted : j.aborted = true)
    (async : j.blocking = false) :
    (p.turn i).stage? i = some .ended ∧
      (i ∈ p.slots.holding → (p.turn i).slots = p.slots.release i) := by
  change p.slots.Serves p.stage? at h
  have stage := stage?_of_known known
  have off : j.isCalledOff = true := by simp [PoolJob.isCalledOff, aborted]
  unfold turn
  rw [known]
  cases at_stage : j.stage with
  | submitted =>
    have free : i ∉ p.slots.holding := h.not_mem_holding (by grind) (by grind)
    simp [at_stage, off, stage?_setStage known, free]
  | waiting =>
    simp only [at_stage, off, if_true, stage?_setStage_slots known, Function.update_self, true_and]
    intro holds
    have out : i ∉ p.slots.waiting := fun w => List.disjoint_of_nodup_append h.nodup holds w
    simp [setStage, modifyJob, Slots.withdraw, out]
  | working =>
    simp only [at_stage, aborted, async, Bool.not_false, Bool.and_self, if_true,
      stage?_setStage_slots known, Function.update_self, true_and]
    exact fun _ => rfl
  | ended =>
    have free : i ∉ p.slots.holding := h.not_mem_holding (by grind) (by grind)
    simp [at_stage, stage, free]

/-- The only slot goes on to a job in line, which keeps it though it is aborted as well. -/
example : ((ofCapacity 0).run [.submit false, .submit true, .turn 0, .turn 1, .abort 0, .turn 0,
    .turn 1, .abort 1, .turn 1]).working = [1] := by decide

end Pool

end DataGrid
