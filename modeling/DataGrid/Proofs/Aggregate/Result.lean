import DataGrid.Proofs.Aggregate.Combine
import DataGrid.Proofs.Query.EntryOrder
import DataGrid.Proofs.Sort.Stable

/-!
# Results of aggregators

An aggregator has one result, except that distinct values may come out of their set in any order,
and are sorted from that. Main statements: all results of one aggregator are lists of the same
values (`Gives.perm`), and it fails to give one only if it is `Tangled` (`Gives.tangled`).
-/

namespace DataGrid

open DataGrid.Sort

namespace Value

theorem Level.mono {vs us : List Value} (h : Level vs) (sub : us ⊆ vs) : Level us :=
  fun a ha b hb c hc => h a (sub ha) b (sub hb) c (sub hc)

theorem sort?_ne_none {vs : List Value} (h : vs.length ≤ insertionLimit ∨ Level vs) :
    sort? vs ≠ none := by
  rcases h with few | level
  · exact Option.isSome_iff_ne_none.1 (isSome_stableSort? _ few)
  · rw [sort?, stableSort?_eq_mergeSort level.totalPreorder]
    exact Option.some_ne_none _

end Value

namespace Aggregator

variable {a : Aggregator} {vs : List Value} {o : Option Value}

theorem result?_distinct (distinct : a.state = .distinct vs) :
    a.result? = (Value.sort? vs).map .list := by
  unfold result?
  rw [distinct]

theorem gives_distinct (distinct : a.state = .distinct vs) :
    a.Gives o ↔ ∃ us, us.Perm vs ∧ o = (Value.sort? us).map .list := by
  unfold Gives
  rw [distinct]

theorem gives_iff (other : ∀ vs, a.state ≠ .distinct vs) : a.Gives o ↔ o = a.result? := by
  unfold Gives
  split
  · next vs distinct => exact absurd distinct (other vs)
  · exact .rfl

/-- The order in which the values came is one of those that they may have. -/
theorem gives_result? (a : Aggregator) : a.Gives a.result? := by
  unfold Gives
  split
  · next vs distinct => exact ⟨vs, .refl vs, result?_distinct distinct⟩
  · rfl

theorem Gives.perm {v : Value} (h : a.Gives (some v)) (distinct : a.state = .distinct vs) :
    ∃ ws, v = .list ws ∧ ws.Perm vs := by
  obtain ⟨us, perm, result⟩ := (gives_distinct distinct).1 h
  obtain ⟨ws, sorted, rfl⟩ := Option.map_eq_some_iff.1 result.symm
  exact ⟨ws, rfl, (stableSort?_perm sorted).trans perm⟩

/-- Distinct values that are too many to be sorted by insertion, and of which three straddle an end
of the decimals. -/
def Tangled (a : Aggregator) : Prop :=
  ∃ vs, a.state = .distinct vs ∧ insertionLimit < vs.length ∧ ¬ Value.Level vs

theorem Gives.tangled (h : a.Gives none) : a.Tangled := by
  unfold Gives at h
  split at h
  · next vs distinct =>
    obtain ⟨us, perm, failed⟩ := h
    have failed : Value.sort? us = none := Option.map_eq_none_iff.1 failed.symm
    refine ⟨vs, distinct, Nat.lt_of_not_le fun few => ?_, fun level => ?_⟩
    · exact Value.sort?_ne_none (.inl (perm.length_eq ▸ few)) failed
    · exact Value.sort?_ne_none (.inr (level.mono perm.subset)) failed
  · next other =>
    obtain ⟨n, attr, d, s⟩ := a
    cases s with
    | distinct vs => exact absurd rfl (other vs)
    | _ => cases h

section Reached

variable {name : String} {f : AggregateFunction} {attr : Option AttributePath} {s : AggregateState}

theorem Tangled.eq_distinct (h : (reached name f attr s).Tangled) (fits : s.Fits f) :
    f = .distinct := by
  obtain ⟨vs, rfl, -⟩ := h
  match f, fits with
  | .distinct, _ => rfl

/-- Only `distinct` may have several results. -/
theorem Gives.unique {v w : Value} (hv : (reached name f attr s).Gives (some v))
    (hw : (reached name f attr s).Gives (some w)) (fits : s.Fits f) (other : f ≠ .distinct) :
    v = w := by
  have settled (vs : List Value) : s ≠ .distinct vs := by
    rintro rfl
    match f, fits with
    | .distinct, _ => exact other rfl
  rw [gives_iff settled] at hv hw
  exact Option.some.inj (hv.trans hw.symm)

end Reached

/-- The values of entries come to a distinct set one by one, and none is refused. -/
theorem accumulateAll_distinct (distinct : a.state = .distinct vs) (es : List Entry) :
    a.accumulateAll es =
      .ok { a with state := .distinct ((es.map a.valueOf).foldl insertDistinct vs) } := by
  induction es generalizing a vs with
  | nil =>
    rw [List.map_nil, List.foldl_nil, ← distinct]
    rfl
  | cons e es ih =>
    have first : a.accumulate e =
        .ok { a with state := .distinct (insertDistinct vs (a.valueOf e)) } := by
      rw [accumulate, stateAfter, distinct]
      rfl
    rw [accumulateAll, List.foldlM_cons, first]
    exact ih rfl

end Aggregator

end DataGrid
