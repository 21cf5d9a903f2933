import DataGrid.Aggregate.Catalog
import DataGrid.Aggregate.InPlace

/-!
# Failures leave aggregators as they were

An operation of an aggregator works in place, in several writes, and may fail on the way. Still it
comes to the new aggregator that the operation stands for, or changes nothing (`accumulate_eq`,
`combine_eq`). Main statement: in a stream of operations of which some fail, those that fail make no
difference (`failures_leave_no_trace`).
-/

namespace DataGrid.InPlace

variable {σ τ : Type}

/-- What an operation leaves behind that comes to a new state or changes nothing. -/
def outcome (s : σ) : Except GridError σ → EStateM.Result GridError σ Unit
  | .ok t => .ok () t
  | .error e => .error e s

/-! ## Parts of a state -/

theorem get_bind (f : σ → InPlace σ Unit) (s : σ) : (get >>= f) s = f s s := rfl

theorem check_bind {α : Type} {x : Except GridError α} {f : α → InPlace σ Unit}
    {g : α → Except GridError σ} {s : σ} (h : ∀ a, f a s = outcome s (g a)) :
    (check x >>= f) s = outcome s (x >>= g) := by
  cases x with
  | error e => rfl
  | ok a => exact h a

theorem within_eq {op : InPlace τ Unit} {part : τ} {x : Except GridError τ}
    (h : op part = outcome part x) (wrap : τ → σ) :
    within wrap part op (wrap part) = outcome (wrap part) (x >>= fun t => pure (wrap t)) := by
  unfold within
  rw [h]
  cases x <;> rfl

/-- An operation on a part, and a write after it that does not fail. -/
theorem within_modify {op : InPlace τ Unit} {part : τ} {x : Except GridError τ}
    (h : op part = outcome part x) (wrap : τ → σ) (f : σ → σ) :
    (within wrap part op >>= fun _ => modify f) (wrap part) =
      outcome (wrap part) (x >>= fun t => pure (f (wrap t))) := by
  change EStateM.bind (within wrap part op) _ _ = _
  rw [EStateM.bind, within_eq h]
  cases x <;> rfl

theorem forM_modify {α : Type} (f : σ → α → σ) (as : List α) (s : σ) :
    (as.forM fun a => modify (f · a) : InPlace σ Unit) s = outcome s (pure (as.foldl f s)) := by
  induction as generalizing s with
  | nil => rfl
  | cons a as ih => exact ih (f s a)

/-! ## Sums and extrema -/

theorem addDecimals_bind (c d : Decimal) (s : RunningSum) :
    (addDecimals c d >>= fun x => set (RunningSum.bigDecimal x)) s =
      outcome s (RunningSum.addDecimals c d) := by
  change EStateM.bind (addDecimals c d) _ _ = _
  unfold EStateM.bind addDecimals RunningSum.addDecimals
  cases c.add? d <;> rfl

theorem add_eq (a : Addend) (s : RunningSum) : add a s = outcome s (s.add a) := by
  cases s <;> cases a <;> first | rfl | exact addDecimals_bind _ _ _

theorem merge_eq (t s : RunningSum) : merge t s = outcome s (s.merge t) := by
  cases s <;> cases t <;> first | rfl | exact addDecimals_bind _ _ _

theorem offer_eq (w : Extremum) (v : Value) (c : Option Value) :
    offer w v c = outcome c (Aggregator.offer w c v) := by
  cases c with
  | none => rfl
  | some c =>
    unfold offer
    rw [get_bind]
    dsimp only [Aggregator.offer]
    cases v.naturalCompare? c with
    | none => rfl
    | some o => cases h : w.prefers o <;> simp [h] <;> rfl

/-! ## States -/

/-- A value comes to the next state, or changes nothing. -/
theorem take_eq (a : Aggregator) (v : Value) (s : AggregateState) :
    take a v s = outcome s ({ a with state := s }.stateAfter v) := by
  cases s with
  | count n | distinct vs => rfl
  | sum s =>
    exact check_bind fun d => check_bind fun x => within_eq (add_eq x s) _
  | average s n =>
    exact check_bind fun d => check_bind fun x => within_modify (add_eq x s) _ _
  | extremum w c =>
    exact check_bind fun _ => within_eq (offer_eq w v c) _

/-- Another state comes to the joint one, or changes nothing. -/
theorem join_eq (t s : AggregateState) : join t s = outcome s (Aggregator.joinStates s t) := by
  cases s <;> cases t <;> try rfl
  case distinct.distinct vs ws => exact within_eq (forM_modify _ ws vs) _
  case sum.sum s t => exact within_eq (merge_eq t s) _
  case average.average s m t n => exact within_modify (merge_eq t s) _ _
  case extremum.extremum w c w' c' =>
    cases c' with
    | none => rfl
    | some v => exact within_eq (offer_eq w v c) _

/-! ## Aggregators -/

theorem accumulate_eq (a : Aggregator) (e : Entry) :
    accumulate e a = outcome a (a.accumulate e) :=
  within_eq (take_eq a (a.valueOf e) a.state) _

theorem combine_eq (a b : Aggregator) : combine b a = outcome a (a.combine b) := by
  unfold combine Aggregator.combine
  rw [get_bind]
  split
  · rfl
  · exact within_eq (join_eq b.state a.state) _

/-! ## Streams of calls -/

/-- A call that changes an aggregator; the donor of a combination is used up. -/
inductive Update where
  | accumulate (e : Entry)
  | combine (donor : Aggregator)

def Update.perform : Update → InPlace Aggregator Unit
  | .accumulate e => InPlace.accumulate e
  | .combine donor => InPlace.combine donor

/-- What is there after a call, failed or not. -/
def Update.leave (a : Aggregator) (u : Update) : Aggregator :=
  match u.perform a with
  | .ok _ b | .error _ b => b

/-- The calls of a stream that do not fail, each made on what those before it have left. -/
def succeeding (a : Aggregator) : List Update → List Update
  | [] => []
  | u :: us =>
    match u.perform a with
    | .ok _ b => u :: succeeding b us
    | .error _ b => succeeding b us

/-- A call comes to a new aggregator or changes nothing. -/
theorem Update.perform_eq (u : Update) (a : Aggregator) : ∃ x, u.perform a = outcome a x := by
  cases u with
  | accumulate e => exact ⟨_, accumulate_eq a e⟩
  | combine donor => exact ⟨_, combine_eq a donor⟩

theorem Update.eq_of_error {u : Update} {a b : Aggregator} {e : GridError}
    (h : u.perform a = .error e b) : b = a := by
  obtain ⟨x, hx⟩ := u.perform_eq a
  rw [hx] at h
  cases x with
  | ok c => cases h
  | error e' =>
    cases h
    rfl

/-- The calls that succeed, made alone, all succeed again and end in the same state. -/
theorem forM_succeeding (a : Aggregator) (us : List Update) :
    (succeeding a us).forM Update.perform a = .ok () (us.foldl Update.leave a) := by
  induction us generalizing a with
  | nil => rfl
  | cons u us ih =>
    cases h : u.perform a with
    | ok _ b =>
      have left : u.leave a = b := by simp only [Update.leave, h]
      have cons : succeeding a (u :: us) = u :: succeeding b us := by simp only [succeeding, h]
      rw [cons, List.foldl_cons, left, ← ih b]
      change EStateM.bind u.perform _ a = _
      rw [EStateM.bind, h]
    | error e b =>
      have left : u.leave a = b := by simp only [Update.leave, h]
      have skip : succeeding a (u :: us) = succeeding b us := by simp only [succeeding, h]
      obtain rfl := Update.eq_of_error h
      rw [skip, List.foldl_cons, left]
      exact ih b

/-- Where nothing fails, it makes no difference that failures are put up with. -/
theorem foldl_leave_of_forM {us : List Update} {a b : Aggregator}
    (h : us.forM Update.perform a = .ok () b) : us.foldl Update.leave a = b := by
  induction us generalizing a with
  | nil =>
    cases h
    rfl
  | cons u us ih =>
    change EStateM.bind u.perform (fun _ => us.forM Update.perform) a = _ at h
    rw [EStateM.bind] at h
    cases hu : u.perform a with
    | ok _ c =>
      rw [hu] at h
      have left : u.leave a = c := by simp only [Update.leave, hu]
      rw [List.foldl_cons, left]
      exact ih h
    | error e c =>
      rw [hu] at h
      cases h

/-- Any aggregator, whatever its name, domain and state, is as it was after a call that fails. So a
stream of calls of which some fail comes to what it comes to without these, which then succeeds as a
whole, and has the same result. -/
theorem failures_leave_no_trace (a : Aggregator) (us : List Update) :
    (∀ (u : Update) e b, u.perform a = .error e b → b = a) ∧
    (succeeding a us).forM Update.perform a = .ok () (us.foldl Update.leave a) ∧
    ((succeeding a us).foldl Update.leave a).result? = (us.foldl Update.leave a).result? := by
  have alone := forM_succeeding a us
  exact ⟨fun u e b => Update.eq_of_error, alone, congrArg _ (foldl_leave_of_forM alone)⟩

/-- An average that puts up with a text and with a donor whose sum is of another kind. -/
theorem failures_leave_no_trace_average :
    let a : Aggregator := ⟨"mean", none, some .number, .average (.mixed 0 (.zero false)) 0⟩
    let one : Update := .accumulate ⟨"a", .int 1⟩
    let text : Update := .accumulate ⟨"b", .text "2"⟩
    let other : Update := .combine ⟨"mean", none, none, .average (.long 5) 2⟩
    (∃ e, text.perform a = .error e a) ∧ (∃ e, other.perform a = .error e a) ∧
      [one, other, text, one].foldl Update.leave a =
        { a with state := .average (.mixed 2 (.zero false)) 2 } ∧
      ([one, one].foldl Update.leave a).result? =
        ([one, other, text, one].foldl Update.leave a).result? := by
  intro a one text other
  obtain ⟨unchanged, -, same⟩ := failures_leave_no_trace a [one, other, text, one]
  exact ⟨⟨_, congrArg _ (unchanged text _ _ rfl)⟩, ⟨_, congrArg _ (unchanged other _ _ rfl)⟩, rfl, same⟩

end DataGrid.InPlace
