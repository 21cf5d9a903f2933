import DataGrid.Proofs.Aggregate.Result

/-!
# Any order and any grouping

Entries may be handed out to any number of clones of an aggregator in any order, and the clones
combined in any tree. Neither matters: the tree comes to the single pass over its entries
(`toOption_run`), and single passes over permuted entries agree (`accumulateAll_perm`). Main
statement: `run_perm`. Of what it leaves open there is a case (`run_distinct_gives_up`).
-/

namespace DataGrid

/-! ## Agreement -/

/-- Two computations agree if both fail, or both succeed with related results. -/
inductive Agree {ε α β : Type} (R : α → β → Prop) : Except ε α → Except ε β → Prop
  | ok {a : α} {b : β} : R a b → Agree R (.ok a) (.ok b)
  | error {e e' : ε} : Agree R (.error e) (.error e')

namespace Agree

variable {ε α β γ δ : Type}

theorem of_toOption {x y : Except ε α} {R : α → α → Prop} (h : x.toOption = y.toOption)
    (refl : ∀ a, x = .ok a → R a a) : Agree R x y := by
  cases x with
  | error e =>
    cases y with
    | error e' => exact .error
    | ok b => cases h
  | ok a =>
    cases y with
    | error e' => cases h
    | ok b =>
      obtain rfl : a = b := Option.some.inj h
      exact .ok (refl a rfl)

theorem trans {x : Except ε α} {y : Except ε β} {z : Except ε γ} {R : α → β → Prop}
    {S : β → γ → Prop} {T : α → γ → Prop} (h : Agree R x y) (k : Agree S y z)
    (hT : ∀ a b c, R a b → S b c → T a c) : Agree T x z := by
  cases h with
  | ok r =>
    cases k with
    | ok s => exact .ok (hT _ _ _ r s)
  | error =>
    cases k with
    | error => exact .error

theorem bind {x : Except ε α} {y : Except ε β} {f : α → Except ε γ} {g : β → Except ε δ}
    {R : α → β → Prop} {S : γ → δ → Prop} (h : Agree R x y)
    (hf : ∀ a b, R a b → Agree S (f a) (g b)) : Agree S (x >>= f) (y >>= g) := by
  cases h with
  | ok r => exact hf _ _ r
  | error => exact .error

theorem map {x : Except ε α} {y : Except ε β} {f : α → γ} {g : β → δ} {R : α → β → Prop}
    {S : γ → δ → Prop} (h : Agree R x y) (hf : ∀ a b, R a b → S (f a) (g b)) :
    Agree S (f <$> x) (g <$> y) := by
  cases h with
  | ok r => exact .ok (hf _ _ r)
  | error => exact .error

/-- Two computations in a row that agree go on to agree inside of a larger state. -/
theorem lift {σ : Type} {x y : Except ε α} {m n : α → Except ε α} {g g' : α → σ}
    {step step' : σ → Except ε σ} {R : α → α → Prop} {S : σ → σ → Prop}
    (hm : ∀ a, step (g a) = g' <$> m a) (hn : ∀ a, step' (g a) = g' <$> n a)
    (h : Agree R (x >>= m) (y >>= n)) (hR : ∀ a b, R a b → S (g' a) (g' b)) :
    Agree S (g <$> x >>= step) (g <$> y >>= step') := by
  simp only [bind_map_left, hm, hn, ← map_bind]
  exact h.map hR

section Fold

variable {σ : Type} {R : σ → σ → Prop} {step : σ → α → Except ε σ}

theorem foldlM_congr (congr : ∀ {s t}, R s t → ∀ a, Agree R (step s a) (step t a)) (l : List α)
    {s t : σ} (hst : R s t) : Agree R (l.foldlM step s) (l.foldlM step t) := by
  induction l generalizing s t with
  | nil => exact .ok hst
  | cons a l ih =>
    rw [List.foldlM_cons, List.foldlM_cons]
    exact (congr hst a).bind fun _ _ r => ih r

/-- If any two steps may change places up to a relation, the order of all makes no difference. -/
theorem foldlM_perm (refl : ∀ {s t}, R s t → R t t) (trans : ∀ {s t u}, R s t → R t u → R s u)
    (congr : ∀ {s t}, R s t → ∀ a, Agree R (step s a) (step t a))
    (swap : ∀ {s}, R s s → ∀ a b, Agree R (step s a >>= (step · b)) (step s b >>= (step · a)))
    {l m : List α} (h : l.Perm m) {s t : σ} (hst : R s t) :
    Agree R (l.foldlM step s) (m.foldlM step t) := by
  induction h generalizing s t with
  | nil => exact .ok hst
  | cons a _ ih =>
    rw [List.foldlM_cons, List.foldlM_cons]
    exact (congr hst a).bind fun _ _ r => ih r
  | swap a b l =>
    simp only [List.foldlM_cons, ← bind_assoc]
    have same : Agree R (step s b >>= (step · a)) (step t a >>= (step · b)) :=
      ((congr hst b).bind fun _ _ r => congr r a).trans (swap (refl hst) b a) fun _ _ _ => trans
    exact same.bind fun _ _ r => foldlM_congr congr l r
  | trans _ _ ih ih' => exact (ih hst).trans (ih' (refl hst)) fun _ _ _ => trans

end Fold

end Agree

/-! ## Extrema -/

/-- Extrema that are equal, or both missing. -/
def Tie : Option Value → Option Value → Prop := Option.Rel (·.beq · = true)

namespace Tie

variable {c c' c'' : Option Value}

theorem refl (c : Option Value) : Tie c c := by
  cases c with
  | none => exact .none
  | some v => exact .some (Value.beq_refl v)

theorem trans (h : Tie c c') (k : Tie c' c'') : Tie c c'' := by
  cases h with
  | none => exact k
  | some equal =>
    cases k with
    | some equal' => exact .some (Value.beq_trans equal equal')

end Tie

namespace Aggregator

theorem offer_congr (w : Extremum) {c c' : Option Value} (h : Tie c c') {v v' : Value}
    (k : v.beq v' = true) : Agree Tie (offer w c v) (offer w c' v') := by
  cases h with
  | none => exact .ok (.some k)
  | @some c c' h =>
    unfold offer
    simp only [Value.naturalCompare?_congr k h]
    cases v'.naturalCompare? c' with
    | none => exact .error
    | some o =>
      refine .ok (.some ?_)
      cases w.prefers o
      · exact h
      · exact k

theorem joinExtrema_congr (w : Extremum) (c : Option Value) {v v' : Option Value} (h : Tie v v') :
    Agree Tie (joinExtrema w c v) (joinExtrema w c v') := by
  cases h with
  | none => exact .ok (.refl c)
  | some h => exact offer_congr w (.refl c) h

/-- Of two values the same one wins, whoever comes first; only equal ones tie. -/
theorem offer_comm (w : Extremum) (u v : Value) :
    Agree Tie (offer w (some u) v) (offer w (some v) u) := by
  have swap := Value.naturalCompare?_swap v u
  unfold offer
  cases h : v.naturalCompare? u with
  | none =>
    simp only [swap, h]
    exact .error
  | some o =>
    simp only [swap, h, Option.map_some]
    cases o with
    | eq =>
      have equal := Value.beq_of_naturalCompare? h
      cases w <;> exact .ok (.some (Value.beq_symm equal))
    | lt | gt => cases w <;> exact .ok (.refl _)

/-- Two values may compete in either order. -/
theorem offer_swap (w : Extremum) (c : Option Value) (u v : Value) :
    Agree Tie (offer w c u >>= (offer w · v)) (offer w c v >>= (offer w · u)) := by
  -- They may as well compete with each other first.
  have first (u v : Value) :
      (offer w (some u) v >>= joinExtrema w c).toOption =
        (offer w c u >>= (offer w · v)).toOption := offer_joinExtrema w c (some u) v
  have left : Agree Tie (offer w c u >>= (offer w · v)) (offer w (some u) v >>= joinExtrema w c) :=
    .of_toOption (first u v).symm fun a _ => .refl a
  have right : Agree Tie (offer w (some v) u >>= joinExtrema w c) (offer w c v >>= (offer w · u)) :=
    .of_toOption (first v u) fun a _ => .refl a
  have between : Agree Tie (offer w (some u) v >>= joinExtrema w c)
      (offer w (some v) u >>= joinExtrema w c) :=
    (offer_comm w u v).bind fun _ _ tie => joinExtrema_congr w c tie
  exact (left.trans between fun _ _ _ => Tie.trans).trans right fun _ _ _ => Tie.trans

end Aggregator

/-! ## Sums -/

namespace RunningSum

variable {d : NumericDomain} {s : RunningSum}

/-- Two addends may be added in either order. -/
theorem Fits.add_swap (hs : Fits d s) {a b : Addend} (ha : a.Fits d) (hb : b.Fits d) :
    ∃ q, Fits d q ∧ s.add a >>= (·.add b) = .ok q ∧ s.add b >>= (·.add a) = .ok q := by
  have wrap (l m n : Int64) : l + m + n = l + n + m := by
    rw [Int64.add_assoc, Int64.add_comm m, ← Int64.add_assoc]
  cases d with
  | integer | long | fixedPoint =>
    match s, hs, a, ha, b, hb with
    | .long l, _, .long m, _, .long n, _ =>
      refine ⟨.long (l + m + n), trivial, rfl, ?_⟩
      exact congrArg (Except.ok ∘ RunningSum.long) (wrap l n m)
  | bigInteger =>
    match s, hs, a, ha, b, hb with
    | .bigInteger l, _, .bigInteger m, _, .bigInteger n, _ =>
      refine ⟨.bigInteger (l + m + n), trivial, rfl, ?_⟩
      exact congrArg (Except.ok ∘ RunningSum.bigInteger) (Int.add_right_comm l n m)
  | double | bigDecimal | floatingPoint | number => cases hs.isExact

/-- Two values may be widened and added in either order. -/
theorem widen_swap (hs : Fits d s) (v w : Value) :
    Agree (fun q r => Fits d q ∧ q = r) (d.widen v >>= s.add >>= fun q => d.widen w >>= q.add)
      (d.widen w >>= s.add >>= fun q => d.widen v >>= q.add) := by
  cases ha : d.widen v with
  | error e =>
    cases hb : d.widen w with
    | error e' => exact .error
    | ok b =>
      obtain ⟨q, hq, -⟩ := hs.add (NumericDomain.fits_widen hs.isExact hb)
      change Agree _ (.error e) (s.add b >>= fun q => .error e)
      rw [hq]
      exact .error
  | ok a =>
    have fitsA := NumericDomain.fits_widen hs.isExact ha
    cases hb : d.widen w with
    | error e' =>
      obtain ⟨q, hq, -⟩ := hs.add fitsA
      change Agree _ (s.add a >>= fun q => .error e') (.error e')
      rw [hq]
      exact .error
    | ok b =>
      obtain ⟨q, fits, hq, hr⟩ := hs.add_swap fitsA (NumericDomain.fits_widen hs.isExact hb)
      change Agree _ (s.add a >>= (·.add b)) (s.add b >>= (·.add a))
      rw [hq, hr]
      exact .ok ⟨fits, rfl⟩

end RunningSum

/-! ## States -/

/-- The same state, but distinct values, each of them there once, and extrema may come in other
forms that are equal. -/
inductive AggregateState.Same : AggregateFunction → AggregateState → AggregateState → Prop
  | refl {f : AggregateFunction} {s : AggregateState} (other : f ≠ .distinct) (fits : s.Fits f) :
      Same f s s
  | distinct {vs ws : List Value} (once : vs.Pairwise (·.beq · = false))
      (once' : ws.Pairwise (·.beq · = false)) (same : ∀ v, vs.any (· == v) = ws.any (· == v)) :
      Same .distinct (.distinct vs) (.distinct ws)
  | extremum {w : Extremum} {d : Option NumericDomain} {c c' : Option Value} (tie : Tie c c') :
      Same (.extremum w d) (.extremum w c) (.extremum w c')

namespace AggregateState.Same

variable {f : AggregateFunction} {s t u : AggregateState}

theorem start (h : f.isExact = true) : Same f f.start f.start := by
  cases f with
  | distinct => exact .distinct .nil .nil fun _ => rfl
  | _ => exact .refl nofun (Aggregator.fits_start h)

theorem fits (h : Same f s t) : s.Fits f := by
  cases h with
  | refl _ fits => exact fits
  | distinct => trivial
  | extremum => exact rfl

theorem right (h : Same f s t) : Same f t t := by
  cases h with
  | refl other fits => exact .refl other fits
  | distinct _ once' _ => exact .distinct once' once' fun _ => rfl
  | extremum => exact .extremum (.refl _)

theorem trans (h : Same f s t) (k : Same f t u) : Same f s u := by
  cases h with
  | refl => exact k
  | distinct once _ same =>
    cases k with
    | refl other => exact absurd rfl other
    | distinct _ once' same' => exact .distinct once once' fun v => (same v).trans (same' v)
  | extremum tie =>
    cases k with
    | refl => exact .extremum tie
    | extremum tie' => exact .extremum (tie.trans tie')

end AggregateState.Same

namespace Aggregator

open AggregateState

variable {name : String} {f : AggregateFunction} {attr : Option AttributePath}
  {s t : AggregateState}

theorem any_insertDistinct (vs : List Value) (v x : Value) :
    (insertDistinct vs v).any (· == x) = (vs.any (· == x) || v == x) := by
  unfold insertDistinct
  split
  · next there =>
    cases hx : v == x with
    | false => simp
    | true =>
      obtain ⟨u, hu, equal⟩ := List.any_eq_true.1 there
      have found : vs.any (· == x) = true :=
        List.any_eq_true.2 ⟨u, hu, Value.beq_trans equal hx⟩
      simp [found]
  · simp

theorem once_insertDistinct {vs : List Value} (h : vs.Pairwise (·.beq · = false)) (v : Value) :
    (insertDistinct vs v).Pairwise (·.beq · = false) := by
  unfold insertDistinct
  split
  · exact h
  · next new =>
    refine List.pairwise_append.2 ⟨h, List.pairwise_singleton _ v, ?_⟩
    intro u hu w hw
    obtain rfl := List.mem_singleton.1 hw
    exact Bool.eq_false_iff.2 fun equal => new (List.any_eq_true.2 ⟨u, hu, equal⟩)

theorem stateAfter_congr (h : Same f s t) (v : Value) :
    Agree (Same f) ((reached name f attr s).stateAfter v)
      ((reached name f attr t).stateAfter v) := by
  cases h with
  | refl other fits =>
    exact .of_toOption rfl fun q hq => .refl other (fits_stateAfter fits hq)
  | distinct once once' same =>
    refine .ok (.distinct (once_insertDistinct once v) (once_insertDistinct once' v) fun x => ?_)
    rw [any_insertDistinct, any_insertDistinct, same x]
  | @extremum w d c c' tie =>
    rw [stateAfter_extremum, stateAfter_extremum]
    refine Agree.map (R := Tie) ?_ fun _ _ => .extremum
    cases checkComparable d v with
    | error e => exact .error
    | ok => exact offer_congr w tie (Value.beq_refl v)

/-- Two values may be taken in either order. -/
theorem stateAfter_swap (h : Same f s s) (v w : Value) :
    Agree (Same f)
      ((reached name f attr s).stateAfter v >>= fun q => (reached name f attr q).stateAfter w)
      ((reached name f attr s).stateAfter w >>= fun q => (reached name f attr q).stateAfter v) := by
  match f, s, h.fits with
  | .count, .count n, _ => exact .ok (.refl nofun trivial)
  | .distinct, .distinct vs, _ =>
    have once (v w : Value) :
        (insertDistinct (insertDistinct vs v) w).Pairwise (·.beq · = false) := by
      cases h with
      | refl other => exact absurd rfl other
      | distinct once => exact once_insertDistinct (once_insertDistinct once v) w
    refine .ok (.distinct (once v w) (once w v) fun x => ?_)
    simp only [any_insertDistinct, Bool.or_assoc, Bool.or_comm (v == x)]
  | .sum d, .sum s, hs =>
    rw [stateAfter_sum, stateAfter_sum]
    refine .lift (stateAfter_sum d · w) (stateAfter_sum d · v) (RunningSum.widen_swap hs v w) ?_
    rintro q _ ⟨fits, rfl⟩
    exact .refl nofun fits
  | .average d, .average s n, hs =>
    rw [stateAfter_average, stateAfter_average]
    refine .lift (stateAfter_average d · (n + 1) w) (stateAfter_average d · (n + 1) v)
      (RunningSum.widen_swap hs v w) ?_
    rintro q _ ⟨fits, rfl⟩
    exact .refl nofun fits
  | .extremum x d, .extremum _ c, rfl =>
    rw [stateAfter_extremum, stateAfter_extremum]
    refine .lift (stateAfter_extremum x d · w) (stateAfter_extremum x d · v) ?_ fun _ _ => .extremum
    cases checkComparable d v with
    | error e =>
      cases checkComparable d w with
      | error e' => exact .error
      | ok => cases h : offer x c w <;> exact .error
    | ok =>
      cases checkComparable d w with
      | error e' => cases h : offer x c v <;> exact .error
      | ok => exact offer_swap x c v w

/-! ## Single passes -/

theorem accumulateAll_reached (s : AggregateState) (es : List Entry) :
    accumulateAll (reached name f attr s) es =
      reached name f attr <$> es.foldlM
        (fun q e => (reached name f attr q).stateAfter ((e.extractOr attr).getD .null)) s := by
  induction es generalizing s with
  | nil => rfl
  | cons e es ih =>
    have cons : accumulateAll (reached name f attr s) (e :: es) =
        accumulate (reached name f attr s) e >>= (accumulateAll · es) := List.foldlM_cons
    rw [cons, accumulate_reached, List.foldlM_cons, bind_map_left, map_bind]
    simp only [ih]

/-- Single passes over the same entries in any order agree. -/
theorem accumulateAll_perm (h : Same f s t) {es es' : List Entry} (perm : es.Perm es') :
    Agree (fun a b => ∃ q r, a = reached name f attr q ∧ b = reached name f attr r ∧ Same f q r)
      (accumulateAll (reached name f attr s) es) (accumulateAll (reached name f attr t) es') := by
  rw [accumulateAll_reached, accumulateAll_reached]
  let step (q : AggregateState) (e : Entry) : Except GridError AggregateState :=
    (reached name f attr q).stateAfter ((e.extractOr attr).getD .null)
  have congr {q r : AggregateState} (same : Same f q r) (e : Entry) :
      Agree (Same f) (step q e) (step r e) := stateAfter_congr same _
  have swap {q : AggregateState} (same : Same f q q) (e e' : Entry) :
      Agree (Same f) (step q e >>= (step · e')) (step q e' >>= (step · e)) :=
    stateAfter_swap same _ _
  have folds : Agree (Same f) (es.foldlM step s) (es'.foldlM step t) :=
    Agree.foldlM_perm (R := Same f) Same.right Same.trans congr swap perm h
  exact folds.map fun q r same => ⟨q, r, rfl, rfl, same⟩

end Aggregator

/-! ## Groupings -/

/-- How entries are handed out to clones of an aggregator, and how these are combined. -/
inductive Grouping where
  | clone (es : List Entry)
  | join (l r : Grouping)

namespace Grouping

def entries : Grouping → List Entry
  | clone es => es
  | join l r => l.entries ++ r.entries

/-- Every clone of `a` takes its entries, and of two that are combined the left one goes on. -/
def run (a : Aggregator) : Grouping → Except GridError Aggregator
  | clone es => a.accumulateAll es
  | join l r => do
    let left ← l.run a
    let right ← r.run a
    left.combine right

open Aggregator

variable {name : String} {f : AggregateFunction} {attr : Option AttributePath}

/-- A grouping comes to the single pass over its entries. -/
theorem toOption_run (exact : f.isExact = true) (g : Grouping) :
    (g.run (Catalog.fresh name f attr)).toOption =
      (accumulateAll (Catalog.fresh name f attr) g.entries).toOption := by
  induction g with
  | clone es => rfl
  | join l r ihl ihr =>
    have split : accumulateAll (Catalog.fresh name f attr) (l.entries ++ r.entries) =
        accumulateAll (Catalog.fresh name f attr) l.entries >>= (accumulateAll · r.entries) :=
      List.foldlM_append
    rw [run, entries, split, toOption_bind, toOption_bind, ihl]
    cases hl : accumulateAll (Catalog.fresh name f attr) l.entries with
    | error e => rfl
    | ok b =>
      obtain ⟨s, rfl, fits⟩ := exists_of_accumulateAll (fits_start exact) hl
      calc (r.run (Catalog.fresh name f attr) >>= combine (reached name f attr s)).toOption
        _ = (accumulateAll (Catalog.fresh name f attr) r.entries >>=
              combine (reached name f attr s)).toOption := by
            rw [toOption_bind, ihr, ← toOption_bind]
        _ = (accumulateAll (reached name f attr s) r.entries).toOption :=
            (accumulateAll_eq_combine exact fits r.entries).symm

/-- A grouping succeeds with what the single pass over its entries ends with. -/
theorem run_eq_ok_iff (exact : f.isExact = true) {g : Grouping} {b : Aggregator} :
    g.run (Catalog.fresh name f attr) = .ok b ↔
      accumulateAll (Catalog.fresh name f attr) g.entries = .ok b := by
  rw [← toOption_eq_some, toOption_run exact, toOption_eq_some]

/-- Results are the same if they are equal; as a result of `distinct`, if they hold the same values
up to equality, each once. -/
def SameResult (f : AggregateFunction) (v w : Value) : Prop :=
  match f with
  | .distinct => ∃ vs ws, v = .list vs ∧ w = .list ws ∧ vs.Pairwise (·.beq · = false) ∧
      ws.Pairwise (·.beq · = false) ∧ ∀ x, vs.any (· == x) = ws.any (· == x)
  | _ => (v == w) = true

theorem sameResult_of_gives {s t : AggregateState} (h : s.Same f t) {v w : Value}
    (hv : (reached name f attr s).Gives (some v)) (hw : (reached name f attr t).Gives (some w)) :
    SameResult f v w := by
  cases h with
  | refl other fits =>
    obtain rfl := hv.unique hw fits other
    cases f with
    | distinct => exact absurd rfl other
    | _ => exact Value.beq_refl _
  | @distinct vs ws once once' same =>
    have reordered {us ls : List Value} (perm : ls.Perm us)
        (once : us.Pairwise (·.beq · = false)) : ls.Pairwise (·.beq · = false) :=
      (perm.pairwise_iff fun {a b} ne => (Value.beq_comm b a).trans ne).2 once
    obtain ⟨ls, rfl, left⟩ := hv.perm rfl
    obtain ⟨rs, rfl, right⟩ := hw.perm rfl
    refine ⟨ls, rs, rfl, rfl, reordered left once, reordered right once', fun x => ?_⟩
    exact left.any_eq.trans ((same x).trans right.any_eq.symm)
  | extremum tie =>
    cases hv
    cases hw
    cases tie with
    | none => rfl
    | some equal => exact equal

/-- For an aggregator whose sums do not round, entries may be handed out to any number of clones in
any order, and the clones combined in any tree: that fails just when one aggregator that takes the
entries in any other order does, and otherwise every result is the same. Only distinct values may
come to nothing then, if they are tangled. -/
theorem run_perm {attr : Option String} {a : Aggregator}
    (known : Catalog.function? name = some f) (exact : f.isExact = true)
    (fresh : Catalog.aggregator name attr = .ok a) {g : Grouping} {es : List Entry}
    (perm : g.entries.Perm es) :
    Agree (fun b c => (∀ v w, b.Gives (some v) → c.Gives (some w) → SameResult f v w) ∧
        (b.Gives none → f = .distinct ∧ b.Tangled) ∧ (c.Gives none → f = .distinct ∧ c.Tangled))
      (g.run a) (a.accumulateAll es) := by
  obtain ⟨path, rfl⟩ := Catalog.exists_eq_fresh known fresh
  have single : Agree Eq (g.run (Catalog.fresh name f path))
      (accumulateAll (Catalog.fresh name f path) g.entries) :=
    .of_toOption (toOption_run exact g) fun _ _ => rfl
  refine single.trans (accumulateAll_perm (.start exact) perm) ?_
  rintro _ b c rfl ⟨q, r, rfl, rfl, same⟩
  refine ⟨fun v w => sameResult_of_gives same, fun none => ?_, fun none => ?_⟩
  · exact ⟨none.tangled.eq_distinct same.fits, none.tangled⟩
  · exact ⟨none.tangled.eq_distinct same.right.fits, none.tangled⟩

/-- Two equal decimals in either order, and a clone that gets nothing. -/
theorem run_perm_decimals :
    let one : Entry := ⟨"a", .bigDecimal ⟨false, 1, 0, by decide, by decide⟩⟩
    let tenths : Entry := ⟨"b", .bigDecimal ⟨false, 10, 1, by decide, by decide⟩⟩
    let a := Catalog.fresh "distinct" .distinct none
    ∃ b c v w, run a (.join (.clone [tenths]) (.join (.clone []) (.clone [one]))) = .ok b ∧
      a.accumulateAll [one, tenths] = .ok c ∧ b.result? = some v ∧ c.result? = some w ∧
      SameResult .distinct v w := by
  intro one tenths a
  have perm : [tenths, one].Perm [one, tenths] := .swap one tenths []
  have known : Catalog.function? "distinct" = some .distinct := rfl
  have fresh : Catalog.aggregator "distinct" none = .ok a := rfl
  have agree := run_perm known rfl fresh
    (g := .join (.clone [tenths]) (.join (.clone []) (.clone [one]))) perm
  refine ⟨_, _, .list [tenths.value], .list [one.value], rfl, rfl, rfl, rfl, ?_⟩
  cases agree with
  | ok same => exact same.1 _ _ (gives_result? _) (gives_result? _)

/-- Numbers on both sides of 2^96: in one order the sort of the values gives up, in another it does
not. -/
theorem run_distinct_gives_up :
    let entry (i : Nat) : Entry := ⟨"k", .bigInteger (2 ^ 96 - 20 + i)⟩
    let es := (List.range 21).map entry
    let g : Grouping := .join (.clone ((List.range 10).map fun i => entry (8 * i % 21)))
      (.clone ((List.range 11).map fun i => entry (8 * (10 + i) % 21)))
    let a := Catalog.fresh "distinct" .distinct none
    g.entries.Perm es ∧ ∃ b c, g.run a = .ok b ∧ a.accumulateAll es = .ok c ∧
      b.result? = none ∧ c.result? ≠ none := by
  intro entry es g a
  have numbers : ((List.range 10).map (8 * · % 21) ++
      (List.range 11).map fun i => 8 * (10 + i) % 21).Perm (List.range 21) := by decide
  have perm : g.entries.Perm es := by
    have moved := numbers.map entry
    rw [List.map_append, List.map_map, List.map_map] at moved
    exact moved
  have failed : Value.sort? ((g.entries.map a.valueOf).foldl insertDistinct []) = none := by
    decide +kernel
  have sorted : Value.sort? ((es.map a.valueOf).foldl insertDistinct []) ≠ none := by
    decide +kernel
  refine ⟨perm, _, _, (run_eq_ok_iff rfl).2 (accumulateAll_distinct rfl g.entries),
    accumulateAll_distinct rfl es, ?_, ?_⟩
  · rw [result?_distinct rfl, Option.map_eq_none_iff]
    exact failed
  · rw [result?_distinct rfl, ne_eq, Option.map_eq_none_iff]
    exact sorted

end Grouping

end DataGrid
