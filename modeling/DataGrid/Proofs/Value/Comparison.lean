import DataGrid.Proofs.Number.Magnitude
import DataGrid.Value.Order

/-!
# Equality and order within a kind

Equality of values is an equivalence, and the order within a kind, which only compares values of
one kind, is a total order on them up to equality.
-/

namespace DataGrid

/-- The total order of bit patterns tells any two apart. -/
theorem Binary64.eq_of_totalCompare {x y : Binary64} (h : x.totalCompare y = .eq) : x = y := by
  have same : x.rank = y.rank := Std.LawfulEqOrd.eq_of_compare h
  rw [x.eq_pack, y.eq_pack]
  unfold Binary64.rank at same
  cases hx : x.negative <;> cases hy : y.negative <;>
    simp only [hx, hy, Bool.false_eq_true, if_true, if_false] at same
  · rw [Int.natCast_inj.1 same]
  · omega
  · omega
  · have magnitude : x.magnitude = y.magnitude := by omega
    rw [magnitude]

namespace Value

/-! ## Equality -/

mutual

theorem beq_refl : ∀ v : Value, v.beq v = true
  | .null => rfl
  | .bool _ | .int _ | .long _ | .double _ | .bigInteger _ | .text _ => by simp [beq]
  | .bigDecimal d => by simp [beq]
  | .list items => by simp [beq, beqItems_refl items]
  | .object fields => by simp [beq, beqFields_refl fields]

theorem beqItems_refl : ∀ vs : List Value, beqItems vs vs = true
  | [] => rfl
  | v :: r => by simp [beqItems, beq_refl v, beqItems_refl r]

theorem beqFields_refl : ∀ fs : List (String × Value), beqFields fs fs = true
  | [] => rfl
  | (_, v) :: r => by simp [beqFields, beq_refl v, beqFields_refl r]

end

mutual

theorem beq_comm : ∀ a b : Value, a.beq b = b.beq a
  | .list r, b => by
    cases b with
    | list s => exact beqItems_comm r s
    | _ => rfl
  | .object r, b => by
    cases b with
    | object s => exact beqFields_comm r s
    | _ => rfl
  | .null, b | .bool _, b | .int _, b | .long _, b | .double _, b | .bigInteger _, b
  | .bigDecimal _, b | .text _, b => by
    cases b <;> first | rfl | simp [beq, Decimal.sameValue, eq_comm, Bool.beq_comm]

theorem beqItems_comm : ∀ a b : List Value, beqItems a b = beqItems b a
  | [], [] | [], _ :: _ | _ :: _, [] => rfl
  | v :: r, w :: s => by rw [beqItems, beqItems, beq_comm v w, beqItems_comm r s]

theorem beqFields_comm : ∀ a b : List (String × Value), beqFields a b = beqFields b a
  | [], [] | [], _ :: _ | _ :: _, [] => rfl
  | (i, v) :: r, (j, w) :: s => by
    rw [beqFields, beqFields, beq_comm v w, beqFields_comm r s, Bool.beq_comm (a := i)]

end

theorem beq_symm {a b : Value} (h : a.beq b = true) : b.beq a = true := beq_comm a b ▸ h

mutual

theorem beq_trans : ∀ {a b c : Value}, a.beq b = true → b.beq c = true → a.beq c = true
  | .list r, b, c, h, k => by
    cases b <;> simp only [beq, Bool.false_eq_true] at h
    cases c <;> simp only [beq, Bool.false_eq_true] at k ⊢
    exact beqItems_trans h k
  | .object r, b, c, h, k => by
    cases b <;> simp only [beq, Bool.false_eq_true] at h
    cases c <;> simp only [beq, Bool.false_eq_true] at k ⊢
    exact beqFields_trans h k
  | .null, b, c, h, k | .bool _, b, c, h, k | .int _, b, c, h, k | .long _, b, c, h, k
  | .double _, b, c, h, k | .bigInteger _, b, c, h, k | .bigDecimal _, b, c, h, k
  | .text _, b, c, h, k => by
    cases b <;> simp only [beq, Bool.false_eq_true] at h
    cases c <;> simp_all [beq, Decimal.sameValue]

theorem beqItems_trans : ∀ {a b c : List Value},
    beqItems a b = true → beqItems b c = true → beqItems a c = true
  | [], b, c, h, k => by cases b <;> simp_all [beqItems]
  | v :: r, [], c, h, k => by simp [beqItems] at h
  | v :: r, w :: s, [], h, k => by simp [beqItems] at k
  | v :: r, w :: s, x :: t, h, k => by
    simp only [beqItems, Bool.and_eq_true] at h k ⊢
    exact ⟨beq_trans h.1 k.1, beqItems_trans h.2 k.2⟩

theorem beqFields_trans : ∀ {a b c : List (String × Value)},
    beqFields a b = true → beqFields b c = true → beqFields a c = true
  | [], b, c, h, k => by cases b <;> simp_all [beqFields]
  | (i, v) :: r, [], c, h, k => by simp [beqFields] at h
  | (i, v) :: r, (j, w) :: s, [], h, k => by simp [beqFields] at k
  | (i, v) :: r, (j, w) :: s, (l, x) :: t, h, k => by
    simp only [beqFields, Bool.and_eq_true, beq_iff_eq] at h k ⊢
    exact ⟨⟨h.1.1.trans k.1.1, beq_trans h.1.2 k.1.2⟩, beqFields_trans h.2 k.2⟩

end

/-! ## Order within a kind -/

theorem compare_then {α : Type} [Ord α] [Std.TransOrd α] (a b c : α) :
    (compare a b ≠ .gt → compare b c ≠ .gt → compare a c = (compare a b).then (compare b c)) ∧
      (compare a b ≠ .lt → compare b c ≠ .lt → compare a c = (compare a b).then (compare b c)) := by
  cases h : compare a b with
  | eq => simp [Std.TransCmp.congr_left h, Ordering.then]
  | lt =>
    cases k : compare b c with
    | lt => simp [Std.TransCmp.lt_trans h k, Ordering.then]
    | eq => simp [Std.TransCmp.congr_right k ▸ h, Ordering.then]
    | gt => simp
  | gt =>
    cases k : compare b c with
    | gt => simp [Std.TransCmp.gt_trans h k, Ordering.then]
    | eq => simp [Std.TransCmp.congr_right k ▸ h, Ordering.then]
    | lt => simp

theorem isSome_naturalCompare? {a b : Value} :
    (a.naturalCompare? b).isSome = true ↔
      a.kind = b.kind ∧ a.kind ≠ .list ∧ a.kind ≠ .object := by
  cases a <;> cases b <;> simp [naturalCompare?, kind]

theorem kind_eq_of_naturalCompare? {a b : Value} {o : Ordering} (h : a.naturalCompare? b = some o) :
    a.kind = b.kind :=
  (isSome_naturalCompare?.1 (by rw [h]; rfl)).1

theorem naturalCompare?_swap (a b : Value) :
    b.naturalCompare? a = (a.naturalCompare? b).map Ordering.swap := by
  have swap {α : Type} [Ord α] [Std.OrientedOrd α] (x y : α) :
      some (compare y x) = (some (compare x y)).map Ordering.swap :=
    congrArg some Std.OrientedCmp.eq_swap
  cases a <;> cases b <;> first | rfl | exact swap _ _

/-- Where two comparisons within a kind go the same way, the third one follows. -/
theorem naturalCompare?_trans {a b c : Value} {o p : Ordering} (h : a.naturalCompare? b = some o)
    (k : b.naturalCompare? c = some p) :
    ∃ q, a.naturalCompare? c = some q ∧ (o ≠ .gt → p ≠ .gt → q = o.then p) ∧
      (o ≠ .lt → p ≠ .lt → q = o.then p) := by
  have ab := kind_eq_of_naturalCompare? h
  have bc := kind_eq_of_naturalCompare? k
  cases a <;> cases b <;> cases ab <;> cases c <;> cases bc <;>
    first
    | (cases h; cases k; exact ⟨_, rfl, compare_then _ _ _⟩)
    | (cases h; cases k; exact ⟨_, rfl, fun _ _ => rfl, fun _ _ => rfl⟩)
    | cases h

/-- Only equal values tie. -/
theorem beq_of_naturalCompare? {a b : Value} (h : a.naturalCompare? b = some .eq) :
    a.beq b = true := by
  cases a <;> cases b <;> simp only [naturalCompare?, Option.some.injEq, reduceCtorEq] at h <;>
    simp only [beq, beq_iff_eq]
  case bool.bool | bigInteger.bigInteger | text.text => exact Std.LawfulEqOrd.eq_of_compare h
  case int.int => exact Int32.toInt_inj.1 (Std.LawfulEqOrd.eq_of_compare h)
  case long.long => exact Int64.toInt_inj.1 (Std.LawfulEqOrd.eq_of_compare h)
  case double.double => exact Binary64.eq_of_totalCompare h
  case bigDecimal.bigDecimal => exact decide_eq_true (Std.LawfulEqOrd.eq_of_compare h)

theorem naturalCompare?_congr_left {a b : Value} (h : a.beq b = true) (c : Value) :
    a.naturalCompare? c = b.naturalCompare? c := by
  cases a <;> cases b <;> simp only [beq, Bool.false_eq_true, beq_iff_eq] at h
  case bigDecimal.bigDecimal x y =>
    have units : x.units = y.units := of_decide_eq_true h
    cases c <;> simp [naturalCompare?, Decimal.compare, units]
  case list.list | object.object => rfl
  all_goals simp [h]

/-- Equal values compare alike. -/
theorem naturalCompare?_congr {a b c d : Value} (h : a.beq b = true) (k : c.beq d = true) :
    a.naturalCompare? c = b.naturalCompare? d :=
  calc a.naturalCompare? c
    _ = b.naturalCompare? c := naturalCompare?_congr_left h c
    _ = (c.naturalCompare? b).map Ordering.swap := naturalCompare?_swap c b
    _ = (d.naturalCompare? b).map Ordering.swap := by rw [naturalCompare?_congr_left k b]
    _ = b.naturalCompare? d := (naturalCompare?_swap d b).symm

end Value

end DataGrid
