import DataGrid.Filter.Basic
import DataGrid.Proofs.Value.TotalOrder

/-!
# Comparisons with one literal

The tests of an attribute against a literal go by one order: of less, equal and greater at most one
holds, exactly one if the two values can be compared, and the tests that include equality are the
complements of the opposite ones then. Main statement: `comparisons_agree`.
-/

namespace DataGrid

namespace Value

variable {u v : Value} {o : Ordering}

/-- Values that filters compare: two numbers, neither of them a NaN, or two nulls, booleans or
texts. -/
def Ordered (u v : Value) : Prop :=
  (u.isNumeric = true ∧ u.isNaN = false) ∧ (v.isNumeric = true ∧ v.isNaN = false) ∨
    u.kind = v.kind ∧ u.kind ∈ [Kind.null, .bool, .text]

theorem numericCompare?_of_isNaN (h : u.isNaN = true ∨ v.isNaN = true) :
    u.numericCompare? v = none := by
  have blank {w : Value} (nan : w.isNaN = true) :
      w.toDecimal? = none ∧ ∃ x, w.toBinary? = some x ∧ x.isNaN = true := by
    cases w with
    | double x =>
      refine ⟨Decimal.ofBinary?_eq_none ?_, x, rfl, nan⟩
      have top : Binary64.edge < Binary64.topMagnitude := by decide
      have above : Binary64.topMagnitude < x.magnitude := of_decide_eq_true nan
      omega
    | null | bool | int | long | bigInteger | bigDecimal | text | list | object => cases nan
  rcases h with nan | nan
  · obtain ⟨none, x, double, nan⟩ := blank nan
    cases hv : v.toBinary? <;>
      simp [numericCompare?, none, double, hv, Binary64.compare?, nan]
  · obtain ⟨none, x, double, nan⟩ := blank nan
    cases hu : u.toBinary? <;>
      simp [numericCompare?, none, double, hu, Binary64.compare?, nan]

theorem isSome_numericCompare? (hu : u.isNumeric = true) (hv : v.isNumeric = true) :
    (u.numericCompare? v).isSome = true ↔ u.isNaN = false ∧ v.isNaN = false := by
  constructor
  · intro order
    by_cases nan : u.isNaN = true ∨ v.isNaN = true
    · rw [numericCompare?_of_isNaN nan] at order
      cases order
    · simpa only [not_or, Bool.not_eq_true] using nan
  · rintro ⟨okU, okV⟩
    obtain ⟨x, hx, realX, -⟩ := exists_sized hu okU
    obtain ⟨y, hy, realY, -⟩ := exists_sized hv okV
    obtain ⟨o, ho, -⟩ := numericCompare?_sized hx hy realX realY
    rw [ho]
    rfl

/-- The values that have an order for filters. -/
theorem isSome_compare? : (u.compare? v).isSome = true ↔ u.Ordered v := by
  unfold compare? Ordered
  by_cases numbers : u.isNumeric = true ∧ v.isNumeric = true
  · have plain : ¬ u.kind ∈ [Kind.null, .bool, .text] := by
      have number := numbers.1
      unfold isNumeric at number
      cases hk : u.kind <;> simp [hk, Kind.isNumeric] at number ⊢
    rw [if_pos (by simpa using numbers), isSome_numericCompare? numbers.1 numbers.2]
    simp [numbers, plain]
  · rw [if_neg (by simpa using numbers), isSome_naturalCompare?]
    unfold isNumeric at numbers ⊢
    cases hk : u.kind <;> cases hl : v.kind <;> simp_all [Kind.isNumeric]

theorem naturalCompare?_self (v : Value) :
    v.naturalCompare? v = none ∨ v.naturalCompare? v = some .eq := by
  have swap := naturalCompare?_swap v v
  cases h : v.naturalCompare? v with
  | none => exact .inl rfl
  | some o => cases o <;> simp [h] at swap ⊢

/-- Where there is an order, equality is a part of it. -/
theorem looseEq_of_compare? (h : u.compare? v = some o) : u.looseEq v = (o == .eq) := by
  unfold looseEq
  split
  · rw [h]
    cases o <;> rfl
  · next other =>
    rw [compare?, if_neg other] at h
    change u.beq v = _
    cases equal : u.beq v with
    | true =>
      rw [naturalCompare?_congr_left equal v] at h
      rcases naturalCompare?_self v with none | same
      · cases none.symm.trans h
      · cases same.symm.trans h
        rfl
    | false =>
      cases o with
      | lt | gt => rfl
      | eq => cases (beq_of_naturalCompare? h).symm.trans equal

end Value

namespace Filter

variable {attr : String} {path : AttributePath} {v w : Value} {e : Entry}

/-- The answer of a filter, if it compiles. -/
def test? (f : Filter) (e : Entry) : Option Bool := f.compile.toOption.map (·.apply e)

/-- The tests that only an entry with the attribute passes. -/
def Needs (attr : String) : Filter → Prop
  | .equal a _ | .compare _ a _ | .between a _ _ | .oneOf a _ | .like a _ | .regex a _ => a = attr
  | _ => False

theorem test?_equal (read : AttributePath.parse attr = .ok path) :
    (Filter.equal attr v).test? e = some ((e.extract path).any (·.looseEq v)) := by
  rw [test?, compile, read]
  rfl

theorem test?_notEqual (read : AttributePath.parse attr = .ok path) :
    (Filter.notEqual attr v).test? e = some (!(e.extract path).any (·.looseEq v)) := by
  rw [test?, compile, read]
  rfl

theorem test?_compare (read : AttributePath.parse attr = .ok path) (c : Comparison) :
    (Filter.compare c attr v).test? e =
      some (((e.extract path).bind (·.compare? v)).any c.accepts) := by
  rw [test?, compile, read]
  change some ((e.extract path).any _) = _
  cases e.extract path <;> rfl

theorem test?_between (read : AttributePath.parse attr = .ok path) :
    (Filter.between attr v w).test? e =
      some (((e.extract path).bind (·.compare? v)).any Comparison.greaterEqual.accepts &&
        ((e.extract path).bind (·.compare? w)).any Comparison.lessEqual.accepts) := by
  rw [test?, compile, read]
  change some ((e.extract path).any _) = _
  cases e.extract path <;> rfl

theorem matching_ne_true (missing : e.extract path = none) (q : Except GridError Pattern) :
    (do return CompiledFilter.matching path (← q) : Except GridError CompiledFilter).toOption.map
      (·.apply e) ≠ some true := by
  intro passes
  cases q with
  | error => cases passes
  | ok q =>
    change some (((e.extract path).bind _).any _) = _ at passes
    rw [missing] at passes
    cases passes

theorem Needs.test?_ne_true {f : Filter} (needs : f.Needs attr)
    (read : AttributePath.parse attr = .ok path) (missing : e.extract path = none) :
    f.test? e ≠ some true := by
  cases f with
  | always | notEqual | and | or | not => exact needs.elim
  | equal | compare | between | oneOf =>
    cases needs
    rw [test?, compile, read]
    change some ((e.extract path).any _) ≠ _
    rw [missing]
    rintro ⟨⟩
  | like | regex =>
    cases needs
    rw [test?, compile, read]
    exact matching_ne_true missing _

/-- The tests of one attribute against `v` agree with each other on every entry, and they are one
of three if the values can be compared. A range is a pair of them, and a missing attribute fails
all tests that ask for its value. -/
theorem comparisons_agree (read : AttributePath.parse attr = .ok path) (v w : Value) (e : Entry) :
    ∃ equal : Bool, ∃ passes : Comparison → Bool,
      (Filter.equal attr v).test? e = some equal ∧
      (Filter.notEqual attr v).test? e = some (!equal) ∧
      (∀ c, (Filter.compare c attr v).test? e = some (passes c)) ∧
      [passes .less, equal, passes .greater].count true ≤ 1 ∧
      ((∃ x, e.extract path = some x ∧ x.Ordered v) →
        [passes .less, equal, passes .greater].count true = 1 ∧
        passes .greaterEqual = !passes .less ∧ passes .lessEqual = !passes .greater) ∧
      ((¬ ∃ x, e.extract path = some x ∧ x.Ordered v) → ∀ c, passes c = false) ∧
      (∃ upper, (Filter.compare .lessEqual attr w).test? e = some upper ∧
        (Filter.between attr v w).test? e = some (passes .greaterEqual && upper)) ∧
      (e.extract path = none → ∀ f : Filter, f.Needs attr → f.test? e ≠ some true) := by
  -- Where there is an order, it decides all the answers; where there is none, only equality is left.
  have orders : (∃ x, e.extract path = some x ∧ x.Ordered v) ↔
      ((e.extract path).bind (·.compare? v)).isSome = true := by
    cases e.extract path <;> simp [Value.isSome_compare?]
  have equal {o : Ordering} (h : (e.extract path).bind (·.compare? v) = some o) :
      (e.extract path).any (·.looseEq v) = (o == .eq) := by
    obtain ⟨x, hx, hc⟩ := Option.bind_eq_some_iff.1 h
    rw [hx]
    exact Value.looseEq_of_compare? hc
  refine ⟨_, _, test?_equal read, test?_notEqual read, test?_compare read, ?_, ?_, ?_,
    ⟨_, test?_compare read .lessEqual, test?_between read⟩,
    fun missing f needs => needs.test?_ne_true read missing⟩
  · cases h : (e.extract path).bind (·.compare? v) with
    | none => cases (e.extract path).any (·.looseEq v) <;> decide
    | some o =>
      rw [equal h]
      cases o <;> decide
  · intro ordered
    obtain ⟨o, h⟩ := Option.isSome_iff_exists.1 (orders.1 ordered)
    rw [equal h, h]
    cases o <;> decide
  · intro apart c
    rw [orders, Option.not_isSome_iff_eq_none] at apart
    rw [apart]
    rfl

/-- An integer in a field of a field, against a number of another kind. -/
theorem comparisons_agree_price :
    let e : Entry := ⟨"a", .object [("item", .object [("price", .int 12)])]⟩
    AttributePath.parse "item.price" = .ok ⟨["item", "price"]⟩ ∧
      e.extract ⟨["item", "price"]⟩ = some (.int 12) ∧
      Value.Ordered (.int 12) (.bigInteger 13) ∧
      ∃ equal less greater : Bool,
        (Filter.equal "item.price" (.bigInteger 13)).test? e = some equal ∧
        (Filter.compare .less "item.price" (.bigInteger 13)).test? e = some less ∧
        (Filter.compare .greater "item.price" (.bigInteger 13)).test? e = some greater ∧
        [less, equal, greater].count true = 1 := by
  intro e
  have read : AttributePath.parse "item.price" = .ok ⟨["item", "price"]⟩ := rfl
  have found : e.extract ⟨["item", "price"]⟩ = some (.int 12) := rfl
  have ordered : Value.Ordered (.int 12) (.bigInteger 13) := .inl ⟨⟨rfl, rfl⟩, rfl, rfl⟩
  obtain ⟨equal, passes, same, -, compared, -, one, -⟩ :=
    comparisons_agree read (.bigInteger 13) .null e
  exact ⟨read, found, ordered, equal, passes .less, passes .greater, same, compared .less,
    compared .greater, (one ⟨_, found, ordered⟩).1⟩

end Filter

end DataGrid
