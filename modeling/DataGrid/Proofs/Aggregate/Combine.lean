import DataGrid.Aggregate.Catalog
import DataGrid.Proofs.Value.Comparison

/-!
# Partial aggregates

Entries may be aggregated in parts: whatever an aggregator has seen, going on with more entries
comes to the same as combining it with a fresh one that has seen those. That holds of every
aggregator whose sums do not round. Errors may come up at another place, so results are compared
where there is one. Main statements: `combineAll_accumulateAll`, for any number of parts.
-/

namespace DataGrid

theorem toOption_bind {ε α β : Type} (x : Except ε α) (f : α → Except ε β) :
    (x >>= f).toOption = x.toOption.bind fun a => (f a).toOption := by
  cases x <;> rfl

theorem toOption_eq_some {ε α : Type} {x : Except ε α} {a : α} :
    x.toOption = some a ↔ x = .ok a := by
  cases x <;> simp [Except.toOption]

theorem map_eq_ok {ε α β : Type} {r : Except ε α} {g : α → β} {o : β} :
    r.map g = .ok o ↔ ∃ a, r = .ok a ∧ g a = o := by
  cases r <;> simp [Except.map]

/-- Two computations with one result go on with one result inside of a larger state. -/
theorem toOption_lift {ε α σ : Type} {x y : Except ε α} {m n : α → Except ε α} {g g₁ g₂ : α → σ}
    {join step : σ → Except ε σ} (hj : ∀ a, join (g₁ a) = g <$> m a)
    (hs : ∀ a, step (g₂ a) = g <$> n a) (h : (x >>= m).toOption = (y >>= n).toOption) :
    (g₁ <$> x >>= join).toOption = (g₂ <$> y >>= step).toOption := by
  have inside {z : Except ε α} : (g <$> z).toOption = z.toOption.map g := by cases z <;> rfl
  simp only [bind_map_left, hj, hs, ← map_bind, inside, h]

/-- Whether the numbers of a domain are added without rounding. -/
def NumericDomain.isExact : NumericDomain → Bool
  | .integer | .long | .bigInteger | .fixedPoint => true
  | .double | .bigDecimal | .floatingPoint | .number => false

def AggregateFunction.isExact : AggregateFunction → Bool
  | .sum d | .average d => d.isExact
  | .count | .distinct | .extremum .. => true

/-! ## Sums -/

/-- The sums that come up in an exact domain. -/
def RunningSum.Fits : NumericDomain → RunningSum → Prop
  | .integer, .long _ | .long, .long _ | .fixedPoint, .long _ | .bigInteger, .bigInteger _ => True
  | _, _ => False

/-- The addends of an exact domain. -/
def Addend.Fits : NumericDomain → Addend → Prop
  | .integer, .long _ | .long, .long _ | .fixedPoint, .long _ | .bigInteger, .bigInteger _ => True
  | _, _ => False

theorem NumericDomain.fits_widen {d : NumericDomain} (h : d.isExact = true) {v : Value} {a : Addend}
    (ha : d.widen v = .ok a) : a.Fits d := by
  cases d <;> cases h
  all_goals
    cases v <;> simp only [widen, widen?, Value.toInt64?, Option.map_some, Option.map_none, pure,
      Except.pure, throw, throwThe, MonadExceptOf.throw, Except.ok.injEq, reduceCtorEq] at ha
    all_goals
      subst ha
      trivial

namespace RunningSum

variable {d : NumericDomain} {s t : RunningSum}

theorem fits_emptySum (h : d.isExact = true) : Fits d d.emptySum := by
  cases d <;> trivial

theorem Fits.isExact (hs : Fits d s) : d.isExact = true := by
  cases d <;> first | rfl | cases hs

theorem Fits.add (hs : Fits d s) {a : Addend} (ha : a.Fits d) : ∃ q, s.add a = .ok q ∧ Fits d q := by
  cases d <;> cases s <;> cases a <;> first | exact ⟨_, rfl, trivial⟩ | contradiction

theorem Fits.merge (hs : Fits d s) (ht : Fits d t) : ∃ q, s.merge t = .ok q ∧ Fits d q := by
  cases d <;> cases s <;> cases t <;> first | exact ⟨_, rfl, trivial⟩ | contradiction

theorem merge_emptySum (hs : Fits d s) : s.merge d.emptySum = .ok s := by
  cases d <;> cases s <;>
    first | contradiction | simp [RunningSum.merge, NumericDomain.emptySum, pure, Except.pure]

/-- Widening and adding before two sums are merged is the same as after it. -/
theorem widen_merge (hs : Fits d s) (ht : Fits d t) (v : Value) :
    (d.widen v >>= t.add >>= s.merge).toOption =
      (s.merge t >>= fun q => d.widen v >>= q.add).toOption := by
  cases ha : d.widen v with
  | error e =>
    obtain ⟨q, hq, -⟩ := hs.merge ht
    rw [hq]
    rfl
  | ok a =>
    have fits := NumericDomain.fits_widen hs.isExact ha
    cases d <;> cases s <;> first | contradiction | skip
    all_goals
      cases t <;> cases a <;> first | contradiction | skip
      simp [RunningSum.add, RunningSum.merge, bind, Except.bind, pure, Except.pure,
        Int64.add_assoc, Int.add_assoc]

end RunningSum

theorem Catalog.exists_eq_fresh {name : String} {f : AggregateFunction} {attr : Option String}
    {a : Aggregator} (known : Catalog.function? name = some f)
    (fresh : Catalog.aggregator name attr = .ok a) : ∃ path, a = Catalog.fresh name f path := by
  unfold Catalog.aggregator at fresh
  cases h : attr.mapM AttributePath.parse with
  | error e => simp [h, bind, Except.bind] at fresh
  | ok path =>
    simp only [h, known, bind, Except.bind, pure, Except.pure, Except.ok.injEq] at fresh
    exact ⟨path, fresh.symm⟩

namespace Aggregator

/-! ## Distinct values -/

theorem insertDistinct_of_any {vs : List Value} {v : Value} (h : vs.any (· == v) = true) :
    insertDistinct vs v = vs := if_pos h

/-- What was put in is there, in the form of some equal value. -/
theorem any_foldl_insertDistinct {ws : List Value} {v : Value} {vs : List Value}
    (h : vs.any (· == v) = true ∨ ws.any (· == v) = true) :
    (ws.foldl insertDistinct vs).any (· == v) = true := by
  induction ws generalizing vs with
  | nil => exact h.resolve_right (by simp)
  | cons w ws ih =>
    refine ih ?_
    rw [List.any_cons, Bool.or_eq_true] at h
    rcases h with old | new | later
    · refine .inl ?_
      unfold insertDistinct
      split
      · exact old
      · simp [old]
    · refine .inl ?_
      unfold insertDistinct
      split
      · next there =>
        obtain ⟨u, hu, e⟩ := List.any_eq_true.1 there
        exact List.any_eq_true.2 ⟨u, hu, Value.beq_trans e new⟩
      · simp [new]
    · exact .inr later

theorem foldl_insertDistinct (vs ws : List Value) (v : Value) :
    (insertDistinct ws v).foldl insertDistinct vs =
      insertDistinct (ws.foldl insertDistinct vs) v := by
  by_cases there : ws.any (· == v) = true
  · rw [insertDistinct_of_any there,
      insertDistinct_of_any (any_foldl_insertDistinct (.inr there))]
  · have new : insertDistinct ws v = ws ++ [v] := if_neg there
    rw [new, List.foldl_append]
    rfl

/-! ## Extrema -/

/-- The one of two values that an extremum keeps, if they can be compared. -/
def winner? (w : Extremum) (c v : Value) : Option Value :=
  (v.naturalCompare? c).map fun o => if w.prefers o then v else c

theorem toOption_offer (w : Extremum) (c v : Value) :
    (offer w (some c) v).toOption = (winner? w c v).map some := by
  unfold offer winner?
  cases h : v.naturalCompare? c <;> simp [h, pure, Except.pure, throw, throwThe,
    MonadExceptOf.throw, Except.toOption]

/-- Of three values the same one wins in whatever order they meet. -/
theorem winner?_assoc (w : Extremum) (u c v : Value) :
    (winner? w c v).bind (winner? w u) = (winner? w u c).bind (winner? w · v) := by
  unfold winner?
  cases h : v.naturalCompare? c with
  | none =>
    cases k : c.naturalCompare? u with
    | none => simp
    | some p =>
      -- What can be compared with `u` can be compared with `c`.
      have apart : v.naturalCompare? u = none := by
        cases l : v.naturalCompare? u with
        | none => rfl
        | some q =>
          obtain ⟨r, hr, -⟩ := Value.naturalCompare?_trans l
            ((Value.naturalCompare?_swap c u).trans (congrArg _ k))
          exact absurd (h.symm.trans hr) (by simp)
      simp only [Option.map_none, Option.bind_none, Option.map_some, Option.bind_some]
      split <;> simp [h, apart]
  | some o =>
    cases k : c.naturalCompare? u with
    | none =>
      have apart : v.naturalCompare? u = none := by
        cases l : v.naturalCompare? u with
        | none => rfl
        | some q =>
          obtain ⟨r, hr, -⟩ := Value.naturalCompare?_trans
            ((Value.naturalCompare?_swap v c).trans (congrArg _ h)) l
          exact absurd (k.symm.trans hr) (by simp)
      simp only [Option.map_none, Option.bind_none, Option.map_some, Option.bind_some]
      split <;> simp [k, apart]
    | some p =>
      obtain ⟨q, hq, up, down⟩ := Value.naturalCompare?_trans h k
      simp only [Option.map_some, Option.bind_some]
      cases w <;> cases o <;> cases p <;> simp_all [Extremum.prefers, Ordering.then]

/-- The extremum of two partial ones. -/
def joinExtrema (w : Extremum) (current : Option Value) : Option Value →
    Except GridError (Option Value)
  | none => pure current
  | some v => offer w current v

theorem offer_joinExtrema (w : Extremum) (u t : Option Value) (v : Value) :
    (offer w t v >>= joinExtrema w u).toOption =
      (joinExtrema w u t >>= (offer w · v)).toOption := by
  match u, t with
  | u, none => rfl
  | none, some c =>
    have alone : (joinExtrema w none (some c) >>= (offer w · v)) = offer w (some c) v := rfl
    rw [alone, toOption_bind, toOption_offer]
    cases winner? w c v <;> rfl
  | some u, some c =>
    have met (x : Value) : (joinExtrema w (some u) (some x)).toOption = (winner? w u x).map some :=
      toOption_offer w u x
    rw [toOption_bind, toOption_bind, toOption_offer, met]
    simpa [Option.bind_map, Function.comp_def, met, toOption_offer, Option.map_bind] using
      congrArg (Option.map some) (winner?_assoc w u c v)

/-! ## States -/

end Aggregator

/-- The states that come up in an exact aggregator of the catalog. -/
def AggregateState.Fits : AggregateFunction → AggregateState → Prop
  | .count, .count _ | .distinct, .distinct _ => True
  | .sum d, .sum s | .average d, .average s _ => s.Fits d
  | .extremum w _, .extremum v _ => v = w
  | _, _ => False

namespace Aggregator

variable {name : String} {f : AggregateFunction} {attr : Option AttributePath}
  {s t : AggregateState}

theorem fits_start (h : f.isExact = true) : f.start.Fits f := by
  cases f with
  | sum | average => exact RunningSum.fits_emptySum h
  | _ => trivial

/-- An aggregator of the catalog that has come to a state. -/
def reached (name : String) (f : AggregateFunction) (attr : Option AttributePath)
    (s : AggregateState) : Aggregator := ⟨name, attr, f.domain, s⟩

theorem fits_stateAfter (hs : s.Fits f) {v : Value} {q : AggregateState}
    (h : (reached name f attr s).stateAfter v = .ok q) : q.Fits f := by
  match f, s, hs with
  | .count, .count n, _ | .distinct, .distinct vs, _ =>
    cases h
    trivial
  | .sum d, .sum s, hs | .average d, .average s n, hs =>
    simp only [stateAfter, reached, requireDomain, AggregateFunction.domain, pure_bind] at h
    cases ha : d.widen v with
    | error e => simp [ha, bind, Except.bind] at h
    | ok a =>
      obtain ⟨r, hr, fits⟩ := hs.add (NumericDomain.fits_widen hs.isExact ha)
      simp only [ha, hr, bind, Except.bind, pure, Except.pure, Except.ok.injEq] at h
      subst h
      exact fits
  | .extremum w d, .extremum _ current, rfl =>
    simp only [stateAfter, reached, AggregateFunction.domain] at h
    cases hc : checkComparable d v with
    | error e => simp [hc, bind, Except.bind] at h
    | ok =>
      cases ho : offer w current v with
      | error e => simp [hc, ho, bind, Except.bind] at h
      | ok r =>
        simp only [hc, ho, bind, Except.bind, pure, Except.pure, Except.ok.injEq] at h
        subst h
        rfl

theorem fits_joinStates (hs : s.Fits f) (ht : t.Fits f) {q : AggregateState}
    (h : joinStates s t = .ok q) : q.Fits f := by
  match f, s, hs, t, ht with
  | .count, .count m, _, .count n, _ | .distinct, .distinct vs, _, .distinct ws, _ =>
    cases h
    trivial
  | .sum d, .sum s, hs, .sum t, ht | .average d, .average s m, hs, .average t n, ht =>
    obtain ⟨r, hr, fits⟩ := hs.merge ht
    simp only [joinStates, hr, bind, Except.bind, pure, Except.pure, Except.ok.injEq] at h
    subst h
    exact fits
  | .extremum w d, .extremum _ current, rfl, .extremum _ none, rfl =>
    cases h
    rfl
  | .extremum w d, .extremum _ current, rfl, .extremum _ (some v), rfl =>
    cases ho : offer w current v with
    | error e => simp [joinStates, ho, bind, Except.bind] at h
    | ok r =>
      simp only [joinStates, ho, bind, Except.bind, pure, Except.pure, Except.ok.injEq] at h
      subst h
      rfl

theorem joinStates_start (hs : s.Fits f) : joinStates s f.start = .ok s := by
  match f, s, hs with
  | .count, .count n, _ => simp [joinStates, AggregateFunction.start, pure, Except.pure]
  | .distinct, .distinct vs, _ => rfl
  | .sum d, .sum s, hs =>
    simp [joinStates, AggregateFunction.start, RunningSum.merge_emptySum hs, bind, Except.bind,
      pure, Except.pure]
  | .average d, .average s n, hs =>
    simp [joinStates, AggregateFunction.start, RunningSum.merge_emptySum hs, bind, Except.bind,
      pure, Except.pure]
  | .extremum w d, .extremum _ current, rfl => rfl

theorem stateAfter_sum (d : NumericDomain) (s : RunningSum) (v : Value) :
    (reached name (.sum d) attr (.sum s)).stateAfter v =
      AggregateState.sum <$> (d.widen v >>= s.add) := by
  simp [stateAfter, reached, requireDomain, AggregateFunction.domain]

theorem stateAfter_average (d : NumericDomain) (s : RunningSum) (n : UInt64) (v : Value) :
    (reached name (.average d) attr (.average s n)).stateAfter v =
      (AggregateState.average · (n + 1)) <$> (d.widen v >>= s.add) := by
  simp [stateAfter, reached, requireDomain, AggregateFunction.domain]

theorem stateAfter_extremum (w : Extremum) (d : Option NumericDomain) (c : Option Value)
    (v : Value) :
    (reached name (.extremum w d) attr (.extremum w c)).stateAfter v =
      AggregateState.extremum w <$> (checkComparable d v >>= fun _ => offer w c v) := by
  simp [stateAfter, reached, AggregateFunction.domain]

/-- One more value before two states are joined is one more value after it. -/
theorem stateAfter_joinStates (hs : s.Fits f) (ht : t.Fits f) (v : Value) :
    ((reached name f attr t).stateAfter v >>= joinStates s).toOption =
      (joinStates s t >>= fun q => (reached name f attr q).stateAfter v).toOption := by
  match f, s, hs, t, ht with
  | .count, .count m, _, .count n, _ =>
    simp [stateAfter, reached, joinStates, bind, Except.bind, pure, Except.pure, UInt64.add_assoc]
  | .distinct, .distinct vs, _, .distinct ws, _ =>
    simp [stateAfter, reached, joinStates, bind, Except.bind, pure, Except.pure,
      foldl_insertDistinct]
  | .sum d, .sum s, hs, .sum t, ht =>
    rw [stateAfter_sum]
    exact toOption_lift (fun _ => rfl) (stateAfter_sum d · v) (RunningSum.widen_merge hs ht v)
  | .average d, .average s m, hs, .average t n, ht =>
    rw [stateAfter_average]
    refine toOption_lift (fun r => ?_) (stateAfter_average d · (m + n) v)
      (RunningSum.widen_merge hs ht v)
    rw [UInt64.add_assoc]
    rfl
  | .extremum w d, .extremum _ current, rfl, .extremum _ other, rfl =>
    have join (c : Option Value) : joinStates (.extremum w current) (.extremum w c) =
        AggregateState.extremum w <$> joinExtrema w current c := by cases c <;> rfl
    rw [stateAfter_extremum, join]
    refine toOption_lift join (stateAfter_extremum w d · v) ?_
    cases checkComparable d v with
    | error e => cases joinExtrema w current other <;> rfl
    | ok => exact offer_joinExtrema w current other v

/-! ## Aggregators -/

theorem accumulate_reached (s : AggregateState) (e : Entry) :
    accumulate (reached name f attr s) e =
      reached name f attr <$>
        (reached name f attr s).stateAfter ((e.extractOr attr).getD .null) := rfl

theorem combine_reached {attr' : Option AttributePath} (s t : AggregateState) :
    combine (reached name f attr s) (reached name f attr' t) =
      reached name f attr <$> joinStates s t := by
  simp [combine, reached]
  rfl

theorem exists_of_accumulate (hs : s.Fits f) {e : Entry} {b : Aggregator}
    (h : accumulate (reached name f attr s) e = .ok b) :
    ∃ q, b = reached name f attr q ∧ q.Fits f := by
  rw [accumulate_reached] at h
  cases hq : (reached name f attr s).stateAfter ((e.extractOr attr).getD .null) with
  | error e => simp [hq, Functor.map, Except.map] at h
  | ok q =>
    rw [hq] at h
    cases h
    exact ⟨q, rfl, fits_stateAfter hs hq⟩

theorem exists_of_combine (hs : s.Fits f) (ht : t.Fits f) {b : Aggregator}
    (h : combine (reached name f attr s) (reached name f attr t) = .ok b) :
    ∃ q, b = reached name f attr q ∧ q.Fits f := by
  rw [combine_reached] at h
  cases hq : joinStates s t with
  | error e => simp [hq, Functor.map, Except.map] at h
  | ok q =>
    rw [hq] at h
    cases h
    exact ⟨q, rfl, fits_joinStates hs ht hq⟩

theorem exists_of_accumulateAll {es : List Entry} (hs : s.Fits f) {b : Aggregator}
    (h : accumulateAll (reached name f attr s) es = .ok b) :
    ∃ q, b = reached name f attr q ∧ q.Fits f := by
  induction es generalizing s with
  | nil =>
    cases h
    exact ⟨s, rfl, hs⟩
  | cons e es ih =>
    cases ha : accumulate (reached name f attr s) e with
    | error e' => simp [accumulateAll, List.foldlM_cons, ha, bind, Except.bind] at h
    | ok b' =>
      obtain ⟨q, rfl, hq⟩ := exists_of_accumulate hs ha
      refine ih hq ?_
      simpa [accumulateAll, List.foldlM_cons, ha, bind, Except.bind] using h

theorem accumulate_combine (name : String) (attr : Option AttributePath) (hs : s.Fits f)
    (ht : t.Fits f) (e : Entry) :
    (accumulate (reached name f attr t) e >>= combine (reached name f attr s)).toOption =
      (combine (reached name f attr s) (reached name f attr t) >>= (·.accumulate e)).toOption := by
  rw [accumulate_reached, combine_reached]
  exact toOption_lift (combine_reached s) (accumulate_reached · e) (stateAfter_joinStates hs ht _)

/-- More entries before two partial aggregates are combined are more entries after it. -/
theorem accumulateAll_combine (name : String) (attr : Option AttributePath) (hs : s.Fits f)
    (ht : t.Fits f) (es : List Entry) :
    (accumulateAll (reached name f attr t) es >>= combine (reached name f attr s)).toOption =
      (combine (reached name f attr s) (reached name f attr t) >>=
        (accumulateAll · es)).toOption := by
  induction es generalizing t with
  | nil => simp [accumulateAll]
  | cons e es ih =>
    have cons (a : Aggregator) : accumulateAll a (e :: es) =
        a.accumulate e >>= (accumulateAll · es) := List.foldlM_cons
    have first := accumulate_combine name attr hs ht e
    simp only [cons]
    rw [← bind_assoc, toOption_bind (combine _ _ >>= _), ← first]
    cases ha : accumulate (reached name f attr t) e with
    | error e' => rfl
    | ok b =>
      obtain ⟨q, rfl, hq⟩ := exists_of_accumulate ht ha
      exact (ih hq).trans (toOption_bind _ _)

/-- Going on with entries is the same as combining with what a fresh aggregator makes of them. -/
theorem accumulateAll_eq_combine (exact : f.isExact = true) (hs : s.Fits f) (es : List Entry) :
    (accumulateAll (reached name f attr s) es).toOption =
      (accumulateAll (Catalog.fresh name f attr) es >>= combine (reached name f attr s)).toOption := by
  have start : combine (reached name f attr s) (reached name f attr f.start) =
      .ok (reached name f attr s) := by
    rw [combine_reached, joinStates_start hs]
    rfl
  have all := accumulateAll_combine name attr hs (fits_start exact) es
  rw [start] at all
  exact all.symm

/-- Partial aggregates of any number of parts, combined in order, are the aggregate of all. -/
theorem combineAll_accumulateAll (exact : f.isExact = true) (hs : s.Fits f)
    (ess : List (List Entry)) :
    ((ess.mapM fun es => (accumulateAll (Catalog.fresh name f attr) es).toOption).bind fun parts =>
        (parts.foldlM combine (reached name f attr s)).toOption) =
      (accumulateAll (reached name f attr s) ess.flatten).toOption := by
  induction ess generalizing s with
  | nil => rfl
  | cons es ess ih =>
    have split : accumulateAll (reached name f attr s) (es ++ ess.flatten) =
        accumulateAll (reached name f attr s) es >>= (accumulateAll · ess.flatten) :=
      List.foldlM_append
    rw [List.flatten_cons, split, toOption_bind, accumulateAll_eq_combine exact hs es,
      toOption_bind, Option.bind_assoc, List.mapM_cons]
    generalize ess.mapM (fun es => (accumulateAll (Catalog.fresh name f attr) es).toOption) = rest
      at ih ⊢
    cases hp : accumulateAll (Catalog.fresh name f attr) es with
    | error e => rfl
    | ok p =>
      obtain ⟨t, rfl, ht⟩ := exists_of_accumulateAll (fits_start exact) hp
      have next (parts : List Aggregator) :
          (reached name f attr t :: parts).foldlM combine (reached name f attr s) =
            combine (reached name f attr s) (reached name f attr t) >>= (parts.foldlM combine ·) :=
        List.foldlM_cons
      cases hq : combine (reached name f attr s) (reached name f attr t) with
      | error e =>
        cases rest with
        | none => simp [Except.toOption, hq]
        | some parts => simp [Except.toOption, hq, next, bind, Except.bind]
      | ok b =>
        obtain ⟨q, rfl, fits⟩ := exists_of_combine hs ht hq
        simp only [Except.toOption, Option.bind_eq_bind, Option.bind_some, hq] at ih ⊢
        rw [← ih fits]
        cases rest with
        | none => rfl
        | some parts =>
          simp only [Option.bind_some, pure, next, hq]
          rfl

end Aggregator

end DataGrid
