import DataGrid.Proofs.Aggregate.Failures
import DataGrid.Proofs.Number.DecimalAddition

/-!
# Which aggregators combine

An aggregator takes in another one of its name whose state is of the same kind, if their sums are of
one kind and have room together, and if the values they have kept can be compared. The two kinds of
extrema are not told apart: a minimum takes in a maximum as well. Main statement:
`combine_accepts_iff`, with the failure in every other case.
-/

namespace DataGrid

/-! ## Room for a sum -/

namespace Decimal

/-- Two decimals whose sum, rounded to an integer, takes more than 96 bits. -/
def Overflows (x y : Decimal) : Prop := 2 ^ 96 ≤ roundEven (x.units + y.units).natAbs (10 ^ 28)

/-- There is no sum just when not even the integer part of it has room. -/
theorem add?_eq_none_iff (x y : Decimal) : x.add? y = none ↔ x.Overflows y := by
  have power (k : Nat) : 0 < 10 ^ k := Nat.pow_pos (by decide)
  unfold Overflows
  rcases add?_cases x y with ⟨z, hz, exact⟩ | ⟨m, s, hs, sum, units⟩
  · have small :
        roundEven z.units.natAbs (10 ^ 28) ≤ roundEven ((2 ^ 96 - 1) * 10 ^ 28) (10 ^ 28) := by
      refine roundEven_le_roundEven (power 28) (power 28) (Nat.mul_le_mul_right (10 ^ 28) ?_)
      have coefficient := z.coefficient_lt
      rw [natAbs_units]
      exact Nat.mul_le_mul (by omega) (Nat.pow_le_pow_right (by decide) (Nat.sub_le ..))
    rw [roundEven_mul_right _ (power 28)] at small
    rw [hz, ← exact]
    simp only [reduceCtorEq, false_iff]
    omega
  · have split : 10 ^ 28 = 10 ^ s * 10 ^ (28 - s) := by rw [← Nat.pow_add, Nat.add_sub_cancel' hs]
    have whole : roundEven (x.units + y.units).natAbs (10 ^ 28) = roundEven m.natAbs (10 ^ s) := by
      have same : (x.units + y.units).natAbs * 10 ^ s = m.natAbs * 10 ^ 28 := by
        rw [units, Int.natAbs_mul, Int.natAbs_natCast, split, Nat.mul_assoc,
          Nat.mul_comm (10 ^ (28 - s))]
      exact Nat.le_antisymm
        (roundEven_le_roundEven (power _) (power _) (Nat.le_of_eq same))
        (roundEven_le_roundEven (power _) (power _) (Nat.le_of_eq same.symm))
    rw [sum, whole]
    rcases fit_cases (m < 0) m.natAbs 1 hs with ⟨none, full⟩ | ⟨k, hk, -, z, fits, -, c, -⟩
    · have last := full s (Nat.le_refl s)
      rw [Nat.one_mul] at last
      simp only [none, last]
    · -- What fits at a later place leaves less before the point.
      have fewer : roundEven m.natAbs (10 ^ s) ≤ roundEven m.natAbs (10 ^ k) :=
        roundEven_le_roundEven (power s) (power k)
          (Nat.mul_le_mul_left _ (Nat.pow_le_pow_right (by decide) hk))
      have coefficient := z.coefficient_lt
      rw [Nat.one_mul] at c
      simp only [fits, reduceCtorEq, false_iff]
      omega

end Decimal

/-! ## Sums -/

namespace RunningSum

variable {s t : RunningSum}

/-- Sums that can be added up: of one kind, and with room if they are decimals. -/
def Adds (s t : RunningSum) : Prop :=
  s.kindName = t.kindName ∧ ∀ c d, s = .bigDecimal c → t = .bigDecimal d → ¬ c.Overflows d

theorem merge_of_kindName_ne (h : s.kindName ≠ t.kindName) :
    s.merge t = .error (.invalidRequest (.differentSums s.kindName t.kindName)) := by
  cases s <;> cases t <;> first | rfl | exact absurd rfl h

theorem merge_of_overflows {c d : Decimal} (h : c.Overflows d) :
    (bigDecimal c).merge (bigDecimal d) = .error .overflow := by
  rw [← Decimal.add?_eq_none_iff] at h
  simp only [merge, addDecimals, h]
  rfl

theorem Adds.merge (h : s.Adds t) : ∃ q, s.merge t = .ok q := by
  obtain ⟨kind, room⟩ := h
  cases s <;> cases t <;> try first | exact ⟨_, rfl⟩ | (simp [kindName] at kind; done)
  next c d =>
    have some := room c d rfl rfl
    rw [← Decimal.add?_eq_none_iff, ← ne_eq, Option.ne_none_iff_exists'] at some
    obtain ⟨z, hz⟩ := some
    exact ⟨.bigDecimal z, by simp only [RunningSum.merge, addDecimals, hz]; rfl⟩

end RunningSum

/-! ## Values -/

namespace Value

/-- Kinds of values that have an order. -/
def Kind.isOrdered : Kind → Bool
  | .list | .object => false
  | _ => true

/-- Values of one kind that has an order. -/
def Comparable (u v : Value) : Prop := u.kind = v.kind ∧ u.kind.isOrdered = true

theorem naturalCompare?_eq_none_iff {u v : Value} :
    v.naturalCompare? u = none ↔ ¬ u.Comparable v := by
  have ordered : u.kind.isOrdered = true ↔ u.kind ≠ .list ∧ u.kind ≠ .object := by
    cases u.kind <;> simp [Kind.isOrdered]
  rw [← Option.not_isSome_iff_eq_none, isSome_naturalCompare?, Comparable, ordered]
  grind

end Value

/-! ## States -/

namespace AggregateState

variable {s t : AggregateState} {e : GridError}

/-- The sum in a state. -/
def sum? : AggregateState → Option RunningSum
  | .sum s | .average s _ => some s
  | _ => none

/-- The value that an extremum has kept. -/
def kept? : AggregateState → Option Value
  | .extremum _ current => current
  | _ => none

/-- States whose sums, if they have any, can be added up, and whose values, if they have kept any,
can be compared. -/
structure Joins (s t : AggregateState) : Prop where
  sums : ∀ x y, s.sum? = some x → t.sum? = some y → x.Adds y
  extrema : ∀ u v, s.kept? = some u → t.kept? = some v → u.Comparable v

/-- A minimum and a maximum. -/
def Opposed : AggregateState → AggregateState → Prop
  | .extremum w _, .extremum w' _ => w ≠ w'
  | _, _ => False

/-- Why one state does not take in another, with the answer. -/
inductive Refuses (s t : AggregateState) : GridError → Prop
  | kind : s.kindName ≠ t.kindName → ¬ s.Opposed t →
      Refuses s t (.invalidRequest (.differentStates s.kindName t.kindName))
  | sums {x y : RunningSum} : s.kindName = t.kindName → s.sum? = some x → t.sum? = some y →
      x.kindName ≠ y.kindName →
      Refuses s t (.invalidRequest (.differentSums x.kindName y.kindName))
  | room {c d : Decimal} : s.kindName = t.kindName → s.sum? = some (.bigDecimal c) →
      t.sum? = some (.bigDecimal d) → c.Overflows d → Refuses s t .overflow
  | extrema {u v : Value} : s.kept? = some u → t.kept? = some v → ¬ u.Comparable v →
      Refuses s t (.typeMismatch u.kind.name v.kind.name)

/-- States of one kind that have sums join as these do. -/
theorem joinStates_of_merge_error {x y : RunningSum} (same : s.kindName = t.kindName)
    (hx : s.sum? = some x) (hy : t.sum? = some y) (h : x.merge y = .error e) :
    Aggregator.joinStates s t = .error e := by
  cases s <;> cases hx <;> cases t <;> cases hy <;> first
    | (rw [Aggregator.joinStates, h]; rfl)
    | simp [kindName] at same

theorem exists_extremum {v : Value} (h : s.kept? = some v) : ∃ w, s = .extremum w (some v) := by
  cases s with
  | extremum w current => exact ⟨w, congrArg (extremum w) h⟩
  | _ => cases h

theorem Refuses.joinStates (h : s.Refuses t e) : Aggregator.joinStates s t = .error e := by
  cases h with
  | kind other same =>
    cases s <;> cases t <;> first
      | rfl
      | exact absurd rfl other
      | next w _ w' _ =>
        cases w <;> cases w' <;> first | exact absurd rfl other | exact absurd nofun same
  | sums same hx hy other =>
    exact joinStates_of_merge_error same hx hy (RunningSum.merge_of_kindName_ne other)
  | room same hc hd full =>
    exact joinStates_of_merge_error same hc hd (RunningSum.merge_of_overflows full)
  | extrema hu hv apart =>
    obtain ⟨w, rfl⟩ := exists_extremum hu
    obtain ⟨w', rfl⟩ := exists_extremum hv
    rw [Aggregator.joinStates, Aggregator.offer]
    simp only [Value.naturalCompare?_eq_none_iff.2 apart]
    rfl

/-- States of one kind, and opposed ones, join if what is in them does. -/
theorem Joins.joinStates (kinds : s.kindName = t.kindName ∨ s.Opposed t) (h : s.Joins t) :
    ∃ q, Aggregator.joinStates s t = .ok q := by
  cases s <;> cases t <;> try first
    | (simp [kindName, Opposed] at kinds; done)
    | (cases ‹Extremum› <;> simp [kindName, Opposed] at kinds; done)
  case count.count m n => exact ⟨.count (m + n), rfl⟩
  case distinct.distinct vs ws =>
    exact ⟨.distinct (ws.foldl Aggregator.insertDistinct vs), rfl⟩
  case sum.sum x y =>
    obtain ⟨q, hq⟩ := (h.sums x y rfl rfl).merge
    exact ⟨.sum q, by rw [Aggregator.joinStates, hq]; rfl⟩
  case average.average x m y n =>
    obtain ⟨q, hq⟩ := (h.sums x y rfl rfl).merge
    exact ⟨.average q (m + n), by rw [Aggregator.joinStates, hq]; rfl⟩
  case extremum.extremum w current w' other =>
    cases other with
    | none => exact ⟨.extremum w current, rfl⟩
    | some v =>
      rcases Aggregator.offer_cases w current v with ⟨r, hr⟩ | ⟨u, hu, apart, -⟩
      · exact ⟨.extremum w r, by rw [Aggregator.joinStates, hr]; rfl⟩
      · exact absurd (h.extrema u v hu rfl) (Value.naturalCompare?_eq_none_iff.1 apart)

/-- What does not join has a reason not to. -/
theorem joins_or_refuses (s t : AggregateState) :
    (s.kindName = t.kindName ∨ s.Opposed t) ∧ s.Joins t ∨ ∃ e, s.Refuses t e := by
  by_cases kinds : s.kindName = t.kindName ∨ s.Opposed t
  · refine (Classical.em (s.Joins t)).imp (⟨kinds, ·⟩) fun apart => ?_
    by_contra none
    refine apart ⟨fun x y hx hy => ?_, fun u v hu hv => ?_⟩
    · have same : s.kindName = t.kindName := by
        refine kinds.resolve_right fun opposed => ?_
        cases s <;> cases hx <;> exact opposed
      refine ⟨?_, ?_⟩
      · by_contra other
        exact none ⟨_, .sums same hx hy other⟩
      · rintro c d rfl rfl full
        exact none ⟨_, .room same hx hy full⟩
    · by_contra apart
      exact none ⟨_, .extrema hu hv apart⟩
  · rw [not_or] at kinds
    exact .inr ⟨_, .kind kinds.1 kinds.2⟩

theorem joinStates_eq_ok_iff :
    (∃ q, Aggregator.joinStates s t = .ok q) ↔
      (s.kindName = t.kindName ∨ s.Opposed t) ∧ s.Joins t := by
  refine ⟨fun ⟨q, hq⟩ => ?_, fun ⟨kinds, joins⟩ => joins.joinStates kinds⟩
  rcases joins_or_refuses s t with joins | ⟨e, refused⟩
  · exact joins
  · cases hq.symm.trans refused.joinStates

theorem joinStates_eq_error_iff : Aggregator.joinStates s t = .error e ↔ s.Refuses t e := by
  refine ⟨fun he => ?_, Refuses.joinStates⟩
  rcases joins_or_refuses s t with ⟨kinds, joins⟩ | ⟨e', refused⟩
  · obtain ⟨q, hq⟩ := joins.joinStates kinds
    cases hq.symm.trans he
  · cases refused.joinStates.symm.trans he
    exact refused

end AggregateState

/-! ## Aggregators -/

namespace Aggregator

/-- Why one aggregator does not take in another, with the answer. -/
inductive Refuses (a b : Aggregator) : GridError → Prop
  | name : a.name ≠ b.name → Refuses a b (.invalidRequest (.differentNames a.name b.name))
  | state {e : GridError} : a.name = b.name → a.state.Refuses b.state e → Refuses a b e

/-- Partial results of one aggregator: of one name, in states of one kind that join. -/
structure Matches (a b : Aggregator) : Prop where
  name : a.name = b.name
  kind : a.state.kindName = b.state.kindName
  contents : a.state.Joins b.state

theorem combine_of_name_eq {a b : Aggregator} (h : a.name = b.name) :
    a.combine b = (fun s => { a with state := s }) <$> joinStates a.state b.state := by
  simp [combine, h]

theorem combine_of_name_ne {a b : Aggregator} (h : a.name ≠ b.name) :
    a.combine b = .error (.invalidRequest (.differentNames a.name b.name)) := by
  have other : (a.name != b.name) = true := bne_iff_ne.2 h
  rw [combine, if_pos other]
  rfl

/-- An aggregator takes in those that match it and, a minimum a maximum or the other way, those that
would match it but for that. In every other case it answers with the reason. -/
theorem combine_accepts_iff (a b : Aggregator) :
    ((∃ c, a.combine b = .ok c) ↔
      a.Matches b ∨ a.name = b.name ∧ a.state.Opposed b.state ∧ a.state.Joins b.state) ∧
    ∀ e, a.combine b = .error e ↔ a.Refuses b e := by
  by_cases name : a.name = b.name
  · rw [combine_of_name_eq name]
    constructor
    · have joined := AggregateState.joinStates_eq_ok_iff (s := a.state) (t := b.state)
      have lifted : (∃ c, (fun s => { a with state := s }) <$> joinStates a.state b.state = .ok c) ↔
          ∃ q, joinStates a.state b.state = .ok q := by
        cases joinStates a.state b.state <;> simp [Functor.map, Except.map]
      rw [lifted, joined]
      constructor
      · rintro ⟨same | opposed, joins⟩
        · exact .inl ⟨name, same, joins⟩
        · exact .inr ⟨name, opposed, joins⟩
      · rintro (⟨-, same, joins⟩ | ⟨-, opposed, joins⟩)
        · exact ⟨.inl same, joins⟩
        · exact ⟨.inr opposed, joins⟩
    · intro e
      have lifted : (fun s => { a with state := s }) <$> joinStates a.state b.state = .error e ↔
          joinStates a.state b.state = .error e := by
        cases joinStates a.state b.state <;> simp [Functor.map, Except.map]
      rw [lifted, AggregateState.joinStates_eq_error_iff]
      constructor
      · exact .state name
      · rintro (other | ⟨-, refused⟩)
        · exact absurd name other
        · exact refused
  · rw [combine_of_name_ne name]
    constructor
    · constructor
      · rintro ⟨c, ⟨⟩⟩
      · rintro (⟨same, -, -⟩ | ⟨same, -, -⟩) <;> exact absurd same name
    · intro e
      constructor
      · rintro ⟨⟩
        exact .name name
      · rintro (_ | ⟨same, -⟩)
        · rfl
        · exact absurd same name

/-- A minimum takes in the maximum of other values, and becomes the smaller of the two. -/
theorem combine_accepts_opposed :
    let a : Aggregator := ⟨"custom", none, none, .extremum .min (some (.long 5))⟩
    let b : Aggregator := ⟨"custom", none, none, .extremum .max (some (.long 2))⟩
    a.combine b = .ok { a with state := .extremum .min (some (.long 2)) } ∧ ¬ a.Matches b :=
  ⟨rfl, fun h => absurd h.kind (by decide)⟩

end Aggregator

end DataGrid
