import DataGrid.Proofs.Number.DecimalText
import DataGrid.Proofs.Value.Document
import DataGrid.Value.Tagged

/-!
# Tagged values are read back

A value written with the names of its kinds is read as the same value, except that a decimal zero
loses its sign. A double that is not finite is written as null, and then the reader refuses the
whole. Main statement: `tagged_round_trip`.
-/

namespace DataGrid

namespace Document

theorem toInteger_of_le {low high n : Int} (least : low ≤ n) (most : n ≤ high) :
    toInteger low high (.int n) = .ok n := if_pos ⟨least, most⟩

theorem toNatural_of_lt {bits d : Nat} (h : d < 2 ^ bits) : toNatural bits (.int d) = .ok d := by
  have most : (d : Int) ≤ 2 ^ bits - 1 := by
    have cast : ((2 ^ bits : Nat) : Int) = 2 ^ bits := by norm_cast
    omega
  rw [toNatural, toInteger_of_le (Int.natCast_nonneg d) most]
  rfl

theorem mapM_toNatural {bits : Nat} {ds : List Nat} (small : ∀ d ∈ ds, d < 2 ^ bits) :
    (ofItems (ds.map fun d : Nat => .int d)).mapM (toNatural bits) = .ok ds := by
  induction ds with
  | nil => rfl
  | cons d r ih =>
    obtain ⟨first, rest⟩ := List.forall_mem_cons.1 small
    rw [List.map_cons, ofItems, ofJson, List.mapM_cons, toNatural_of_lt first, ih rest]
    rfl

end Document

namespace Value

/-! ## Values that agree -/

mutual

/-- A value that differs from another at most in how decimals inside it are held: of one kind at
every place, and the same there, a decimal of the same number and scale. -/
inductive Alike : Value → Value → Prop
  | same (v : Value) : Alike v v
  | bigDecimal {c d : Decimal} : c.units = d.units → c.scale = d.scale →
      Alike (.bigDecimal c) (.bigDecimal d)
  | list {vs us : List Value} : AlikeItems vs us → Alike (.list vs) (.list us)
  | object {fs gs : List (String × Value)} : AlikeFields fs gs → Alike (.object fs) (.object gs)

inductive AlikeItems : List Value → List Value → Prop
  | nil : AlikeItems [] []
  | cons {v u : Value} {r s : List Value} : Alike v u → AlikeItems r s →
      AlikeItems (v :: r) (u :: s)

inductive AlikeFields : List (String × Value) → List (String × Value) → Prop
  | nil : AlikeFields [] []
  | cons {k : String} {v u : Value} {r s : List (String × Value)} : Alike v u → AlikeFields r s →
      AlikeFields ((k, v) :: r) ((k, u) :: s)

end

mutual

theorem Alike.beq : ∀ {v u : Value}, Alike v u → v.beq u = true
  | _, _, .same v => beq_refl v
  | _, _, .bigDecimal number _ => decide_eq_true number
  | _, _, .list items => items.beq
  | _, _, .object fields => fields.beq

theorem AlikeItems.beq : ∀ {vs us : List Value}, AlikeItems vs us → beqItems vs us = true
  | _, _, .nil => rfl
  | _, _, .cons first rest => Bool.and_eq_true_iff.2 ⟨first.beq, rest.beq⟩

theorem AlikeFields.beq : ∀ {fs gs : List (String × Value)}, AlikeFields fs gs →
    beqFields fs gs = true
  | _, _, .nil => rfl
  | _, _, .cons first rest => by simp [beqFields, first.beq, rest.beq]

end

mutual

/-- A value as it is read back: the decimals inside it that are zero have no sign. -/
def settled : Value → Value
  | .bigDecimal d => .bigDecimal d.settled
  | .list vs => .list (settledItems vs)
  | .object fs => .object (settledFields fs)
  | v => v

def settledItems : List Value → List Value
  | [] => []
  | v :: r => v.settled :: settledItems r

def settledFields : List (String × Value) → List (String × Value)
  | [] => []
  | (k, v) :: r => (k, v.settled) :: settledFields r

end

mutual

theorem alike_settled : ∀ v : Value, Alike v.settled v
  | .bigDecimal d => .bigDecimal d.units_settled rfl
  | .list vs => .list (alike_settledItems vs)
  | .object fs => .object (alike_settledFields fs)
  | .null | .bool _ | .int _ | .long _ | .double _ | .bigInteger _ | .text _ => .same _

theorem alike_settledItems : ∀ vs : List Value, AlikeItems (settledItems vs) vs
  | [] => .nil
  | v :: r => .cons (alike_settled v) (alike_settledItems r)

theorem alike_settledFields : ∀ fs : List (String × Value), AlikeFields (settledFields fs) fs
  | [] => .nil
  | (_, v) :: r => .cons (alike_settled v) (alike_settledFields r)

end

/-! ## Numbers -/

theorem lt_of_mem_digits {n d : Nat} (h : d ∈ digits n) : d < 2 ^ 32 := by
  fun_induction digits n with
  | case1 => cases h
  | case2 n nonzero ih =>
    rcases List.mem_cons.1 h with rfl | later
    · exact Nat.mod_lt _ (by decide)
    · exact ih later

theorem toBigInteger_signed (n : Int) :
    toBigInteger (.ofJson (.array [.int n.sign,
      .array ((digits n.natAbs).map fun d : Nat => .int d)])) = .ok n := by
  have sign : Document.toInteger (-1) 1 (.int n.sign) = .ok n.sign := by
    refine Document.toInteger_of_le ?_ ?_ <;> rcases Int.sign_trichotomy n with h | h | h <;> omega
  have digits := Document.mapM_toNatural fun d => lt_of_mem_digits (n := n.natAbs) (d := d)
  simp only [Document.ofJson, Document.ofItems, toBigInteger, sign, Document.toList, digits]
  change Except.ok (n.sign * (ofDigits (Value.digits n.natAbs) : Nat)) = _
  rw [ofDigits_digits, Int.sign_mul_natAbs]

theorem toBigDecimal_render (d : Decimal) :
    toBigDecimal (.ofJson (.text d.render)) = .ok d.settled := by
  rw [Document.ofJson, toBigDecimal, Decimal.parseAny?, Decimal.parse?_render]
  rfl

/-! ## Reading back -/

/-- Every double in a list of values is finite. -/
def AllFinite (vs : List Value) : Prop := ∀ x, .double x ∈ vs → x.isFinite = true

@[simp] theorem allFinite_append (vs us : List Value) :
    AllFinite (vs ++ us) ↔ AllFinite vs ∧ AllFinite us := by
  simp [AllFinite, or_imp, forall_and]

@[simp] theorem allFinite_double (x : Binary64) :
    AllFinite (parts (.double x)) ↔ x.isFinite = true := by
  simp [AllFinite, parts]

@[simp] theorem allFinite_list (vs : List Value) :
    AllFinite (parts (.list vs)) ↔ AllFinite (partsOfItems vs) := by
  simp [AllFinite, parts]

@[simp] theorem allFinite_object (fs : List (String × Value)) :
    AllFinite (parts (.object fs)) ↔ AllFinite (partsOfFields fs) := by
  simp [AllFinite, parts]

/-- A kind with its content is read as the content of that kind. -/
theorem ofTagged_variant (k : String) (d : Document) :
    ofTagged (.object [(some k, d)] true) = ofVariant k d := by
  rw [ofTagged]
  cases ofVariant k d <;> rfl

mutual

theorem ofTagged_toTagged : ∀ {v : Value}, InOrder v.parts → AllFinite v.parts →
    ofTagged (.ofJson v.toTagged) = .ok v.settled
  | .null, _, _ => rfl
  | .bool b, _, _ => (ofTagged_variant _ _).trans rfl
  | .text s, _, _ => (ofTagged_variant _ _).trans rfl
  | .int n, _, _ => by
    have read : Document.toInteger (-2 ^ 31) (2 ^ 31 - 1) (.int n.toInt) = .ok n.toInt :=
      Document.toInteger_of_le n.le_toInt (Int.le_sub_one_of_lt n.toInt_lt)
    refine (ofTagged_variant "Int" (.int n.toInt)).trans ?_
    rw [ofVariant, read]
    exact congrArg (Except.ok ∘ int) n.ofInt_toInt
  | .long n, _, _ => by
    have read : Document.toInteger (-2 ^ 63) (2 ^ 63 - 1) (.int n.toInt) = .ok n.toInt :=
      Document.toInteger_of_le n.le_toInt (Int.le_sub_one_of_lt n.toInt_lt)
    refine (ofTagged_variant "Long" (.int n.toInt)).trans ?_
    rw [ofVariant, read]
    exact congrArg (Except.ok ∘ long) n.ofInt_toInt
  | .double x, _, finite => by
    rw [toTagged, if_pos ((allFinite_double x).1 finite)]
    exact (ofTagged_variant _ _).trans rfl
  | .bigInteger n, _, _ => by
    refine (ofTagged_variant "BigInteger" _).trans ?_
    rw [ofVariant, toBigInteger_signed]
    rfl
  | .bigDecimal d, _, _ => by
    refine (ofTagged_variant "BigDecimal" _).trans ?_
    rw [ofVariant, toBigDecimal_render]
    rfl
  | .list vs, order, finite => by
    refine (ofTagged_variant "List" (.array (Document.ofItems (toTaggedItems vs)) true)).trans ?_
    rw [ofVariant, ofTaggedItems_toTaggedItems ((inOrder_list vs).1 order)
      ((allFinite_list vs).1 finite)]
    rfl
  | .object fs, order, finite => by
    obtain ⟨ascending, order⟩ := (inOrder_object fs).1 order
    refine (ofTagged_variant "Object" (.object (Document.ofFields (toTaggedFields fs)) true)).trans
      ?_
    rw [ofVariant, ofTaggedFields_toTaggedFields order ascending
      ((allFinite_object fs).1 finite) [] nofun]
    rfl

theorem ofTaggedItems_toTaggedItems : ∀ {vs : List Value}, InOrder (partsOfItems vs) →
    AllFinite (partsOfItems vs) →
    ofTaggedItems (Document.ofItems (toTaggedItems vs)) = .ok (settledItems vs)
  | [], _, _ => rfl
  | v :: r, order, finite => by
    obtain ⟨order, orderR⟩ := (inOrder_append v.parts (partsOfItems r)).1 order
    obtain ⟨finite, finiteR⟩ := (allFinite_append v.parts (partsOfItems r)).1 finite
    rw [toTaggedItems, Document.ofItems, ofTaggedItems, ofTagged_toTagged order finite,
      ofTaggedItems_toTaggedItems orderR finiteR]
    rfl

/-- The members that have been read stand before those to come. -/
theorem ofTaggedFields_toTaggedFields : ∀ {fs : List (String × Value)},
    InOrder (partsOfFields fs) → Fields.Ascending fs → AllFinite (partsOfFields fs) →
    ∀ seen : List (String × Value), (∀ p ∈ seen, ∀ q ∈ fs, p.1 < q.1) →
    ofTaggedFields seen (Document.ofFields (toTaggedFields fs)) = .ok (seen ++ settledFields fs)
  | [], _, _, _, seen, _ => by rw [settledFields, List.append_nil]; rfl
  | (k, v) :: r, order, ascending, finite, seen, before => by
    obtain ⟨order, orderR⟩ := (inOrder_append v.parts (partsOfFields r)).1 order
    obtain ⟨finite, finiteR⟩ := (allFinite_append v.parts (partsOfFields r)).1 finite
    obtain ⟨least, ascending⟩ := List.pairwise_cons.1 ascending
    have last : ∀ p ∈ seen, p.1 < k := fun p hp => before p hp (k, v) List.mem_cons_self
    rw [toTaggedFields, Document.ofFields, ofTaggedFields, ofTagged_toTagged order finite]
    change ofTaggedFields (Fields.insert seen k v.settled) _ = _
    rw [Fields.insert_of_lt last, ofTaggedFields_toTaggedFields orderR ascending finiteR _
      (Fields.lt_of_mem_concat before least), List.append_assoc, List.singleton_append,
      settledFields]

end

mutual

theorem refuses_toTagged : ∀ {v : Value}, InOrder v.parts → ¬ AllFinite v.parts →
    ofTagged (.ofJson v.toTagged) = .error .mismatch
  | .null, _, infinite | .bool _, _, infinite | .int _, _, infinite | .long _, _, infinite
  | .bigInteger _, _, infinite | .bigDecimal _, _, infinite | .text _, _, infinite =>
    absurd (by simp [AllFinite, parts]) infinite
  | .double x, _, infinite => by
    rw [toTagged, if_neg ((allFinite_double x).not.1 infinite)]
    exact (ofTagged_variant _ _).trans rfl
  | .list vs, order, infinite => by
    refine (ofTagged_variant "List" (.array (Document.ofItems (toTaggedItems vs)) true)).trans ?_
    rw [ofVariant, refuses_toTaggedItems ((inOrder_list vs).1 order)
      ((allFinite_list vs).not.1 infinite)]
    rfl
  | .object fs, order, infinite => by
    obtain ⟨ascending, order⟩ := (inOrder_object fs).1 order
    refine (ofTagged_variant "Object" (.object (Document.ofFields (toTaggedFields fs)) true)).trans
      ?_
    rw [ofVariant, refuses_toTaggedFields order ((allFinite_object fs).not.1 infinite) []]
    rfl

theorem refuses_toTaggedItems : ∀ {vs : List Value}, InOrder (partsOfItems vs) →
    ¬ AllFinite (partsOfItems vs) →
    ofTaggedItems (Document.ofItems (toTaggedItems vs)) = .error .mismatch
  | [], _, infinite => absurd nofun infinite
  | v :: r, order, infinite => by
    obtain ⟨order, orderR⟩ := (inOrder_append v.parts (partsOfItems r)).1 order
    rw [toTaggedItems, Document.ofItems, ofTaggedItems]
    by_cases finite : AllFinite v.parts
    · -- The reader gets past the first value, up to the double that it refuses.
      have later : ¬ AllFinite (partsOfItems r) := fun rest =>
        infinite ((allFinite_append v.parts (partsOfItems r)).2 ⟨finite, rest⟩)
      rw [ofTagged_toTagged order finite, refuses_toTaggedItems orderR later]
      rfl
    · rw [refuses_toTagged order finite]
      rfl

theorem refuses_toTaggedFields : ∀ {fs : List (String × Value)}, InOrder (partsOfFields fs) →
    ¬ AllFinite (partsOfFields fs) → ∀ seen : List (String × Value),
    ofTaggedFields seen (Document.ofFields (toTaggedFields fs)) = .error .mismatch
  | [], _, infinite, _ => absurd nofun infinite
  | (k, v) :: r, order, infinite, seen => by
    obtain ⟨order, orderR⟩ := (inOrder_append v.parts (partsOfFields r)).1 order
    rw [toTaggedFields, Document.ofFields, ofTaggedFields]
    by_cases finite : AllFinite v.parts
    · have later : ¬ AllFinite (partsOfFields r) := fun rest =>
        infinite ((allFinite_append v.parts (partsOfFields r)).2 ⟨finite, rest⟩)
      rw [ofTagged_toTagged order finite]
      exact refuses_toTaggedFields orderR later _
    · rw [refuses_toTagged order finite]
      rfl

end

/-- A value whose doubles are finite is read back as an equal one, of the same form everywhere; any
other value is not read at all. -/
theorem tagged_round_trip (v : Value) (order : InOrder v.parts) :
    (AllFinite v.parts → ofTagged (.ofJson v.toTagged) = .ok v.settled ∧
      (v.settled == v) = true ∧ Alike v.settled v) ∧
    (¬ AllFinite v.parts → ofTagged (.ofJson v.toTagged) = .error .mismatch) :=
  ⟨fun finite => ⟨ofTagged_toTagged order finite, (alike_settled v).beq, alike_settled v⟩,
    refuses_toTagged order⟩

/-- A big integer of two digits, a decimal zero with a sign, and a double zero with one. -/
theorem tagged_round_trip_zeros :
    let zero : Decimal := { negative := true, coefficient := 0, scale := 2 }
    let v : Value := .object [("a", .list [.bigInteger (-2 ^ 40), .bigDecimal zero]),
      ("b", .double (.zero true))]
    InOrder v.parts ∧ AllFinite v.parts ∧ ofTagged (.ofJson v.toTagged) = .ok v.settled ∧
      (v.settled == v) = true := by
  intro zero v
  have order : InOrder v.parts := by
    refine (inOrder_object _).2 ⟨List.pairwise_pair.2 (by decide), ?_⟩
    simp [InOrder, parts, partsOfItems, partsOfFields]
  have finite : AllFinite v.parts := by
    have double : (Binary64.zero true).isFinite = true := by decide
    simp [v, AllFinite, parts, partsOfItems, partsOfFields, double]
  have read := (tagged_round_trip v order).1 finite
  exact ⟨order, finite, read.1, read.2.1⟩

end Value

end DataGrid
