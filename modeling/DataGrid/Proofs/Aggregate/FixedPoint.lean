import DataGrid.Proofs.Aggregate.Grouping
import DataGrid.Proofs.Value.NumericOrder
import Mathlib.Data.Int.ModEq
import Mathlib.Data.Rat.Floor

/-!
# Fixed-point sums

A fixed-point sum takes integers and decimals of any size, cuts off their fractions and adds what is
left in 64 bits. Main statement: whatever the parts it is computed in, it is the sum of the exact
integer parts modulo 2^64 (`fixedPointSum_modEq`).
-/

namespace DataGrid

/-- The integer part of a number, toward zero. -/
def integerPart (q : ℚ) : Int := if 0 ≤ q then ⌊q⌋ else ⌈q⌉

namespace Value

/-- The exact number that an integer or a decimal stands for. -/
def exactNumber : Value → ℚ
  | .int n => n.toInt
  | .long n => n.toInt
  | .bigInteger n => n
  | .bigDecimal d => d.number
  | _ => 0

/-- Whether a value is a number other than a double. -/
def isIntegerOrDecimal (v : Value) : Bool :=
  v.kind = .int || v.kind = .long || v.kind = .bigInteger || v.kind = .bigDecimal

end Value

theorem integerPart_intCast (n : Int) : integerPart n = n := by simp [integerPart]

theorem integerPart_div (n : Int) {d : Nat} (hd : 0 < d) : integerPart (n / d) = n.tdiv d := by
  have pos : (0 : ℚ) < d := by exact_mod_cast hd
  unfold integerPart
  split
  · next up =>
    have nonneg : 0 ≤ n := by
      by_contra neg
      exact absurd up (not_le.2 (div_neg_of_neg_of_pos (by exact_mod_cast not_le.1 neg) pos))
    rw [Rat.floor_intCast_div_natCast, Int.tdiv_eq_ediv_of_nonneg nonneg]
  · next down =>
    have neg : n < 0 := by
      by_contra nonneg
      exact down (div_nonneg (by exact_mod_cast not_lt.1 nonneg) pos.le)
    rw [Rat.ceil_intCast_div_natCast, ← Int.tdiv_eq_ediv_of_nonneg (by omega), Int.neg_tdiv,
      Int.neg_neg]

theorem Decimal.integerPart_number (d : Decimal) : integerPart d.number = d.truncate := by
  have split : (10 : Int) ^ 28 = 10 ^ (28 - d.scale) * 10 ^ d.scale := by
    rw [← pow_add, Nat.sub_add_cancel d.scale_le]
  have units : integerPart d.number = d.units.tdiv (10 ^ 28) := by
    have whole := integerPart_div d.units (d := 10 ^ 28) (by decide)
    push_cast at whole
    exact whole
  rw [units, Decimal.units, Decimal.truncate, split, Int.mul_comm d.signed,
    Int.mul_tdiv_mul_of_pos _ _ (by positivity)]

/-- A number is narrowed to its integer part modulo 2^64. -/
theorem Value.toInt64?_of_isIntegerOrDecimal {v : Value} (h : v.isIntegerOrDecimal = true) :
    v.toInt64? = some (Int64.ofInt (integerPart v.exactNumber)) := by
  cases v with
  | int n => simp [toInt64?, exactNumber, integerPart_intCast]
  | long n => simp [toInt64?, exactNumber, integerPart_intCast]
  | bigInteger n => simp [toInt64?, exactNumber, integerPart_intCast, Narrowing.lowBits_eq]
  | bigDecimal d =>
    simp [toInt64?, exactNumber, Decimal.integerPart_number, Narrowing.narrow_eq]
  | _ => cases h

namespace Aggregator

/-- The sum of the integer parts of numbers. -/
def integerSum (vs : List Value) : Int := (vs.map fun v => integerPart v.exactNumber).sum

variable {attr : Option AttributePath}

/-- A fixed-point sum that has come to `n`. -/
def fixedPointAt (attr : Option AttributePath) (n : Int) : Aggregator :=
  reached "fixed_point_sum" (.sum .fixedPoint) attr (.sum (.long (Int64.ofInt n)))

theorem accumulate_fixedPoint {e : Entry} (h : ((e.extractOr attr).getD .null).isIntegerOrDecimal = true)
    (n : Int) :
    (fixedPointAt attr n).accumulate e =
      .ok (fixedPointAt attr
        (n + integerPart ((e.extractOr attr).getD .null).exactNumber)) := by
  have widened := Value.toInt64?_of_isIntegerOrDecimal h
  rw [fixedPointAt, accumulate_reached, stateAfter_sum]
  simp only [NumericDomain.widen, NumericDomain.widen?, widened, Option.map_some]
  rw [fixedPointAt, Int64.ofInt_add]
  rfl

/-- A single pass adds up the integer parts. -/
theorem accumulateAll_fixedPoint {es : List Entry}
    (h : ∀ e ∈ es, ((e.extractOr attr).getD .null).isIntegerOrDecimal = true) (n : Int) :
    (fixedPointAt attr n).accumulateAll es =
      .ok (fixedPointAt attr (n + integerSum (es.map fun e => (e.extractOr attr).getD .null))) := by
  induction es generalizing n with
  | nil => simp [accumulateAll, integerSum, pure, Except.pure]
  | cons e es ih =>
    rw [accumulateAll, List.foldlM_cons, accumulate_fixedPoint (h e (by simp))]
    refine (ih (fun e he => h e (by simp [he])) _).trans ?_
    simp [integerSum, Int.add_assoc]

end Aggregator

namespace Grouping

open Aggregator

/-- A fixed-point sum of integers and decimals never fails: however the entries are split over
clones, which are combined in any tree, it is the 64-bit integer that is congruent modulo 2^64 to the
sum of the numbers without their fractions. -/
theorem fixedPointSum_modEq {attr : Option String} {a : Aggregator}
    (fresh : Catalog.aggregator "fixed_point_sum" attr = .ok a) {g : Grouping}
    (numbers : ∀ e ∈ g.entries, (a.valueOf e).isIntegerOrDecimal = true) :
    ∃ b n, g.run a = .ok b ∧ b.result? = some (.long n) ∧
      n.toInt ≡ (g.entries.map fun e => integerPart (a.valueOf e).exactNumber).sum
        [ZMOD 2 ^ 64] := by
  obtain ⟨path, rfl⟩ := Catalog.exists_eq_fresh (f := .sum .fixedPoint) rfl fresh
  have pass := accumulateAll_fixedPoint numbers 0
  rw [Int.zero_add] at pass
  refine ⟨_, _, (run_eq_ok_iff rfl).2 pass, rfl, ?_⟩
  rw [Int64.toInt_ofInt, integerSum, List.map_map]
  exact Int.bmod_emod

/-- Numbers that leave the range of 64 bits on either side, in two clones: a decimal with a fraction,
a negative integer of more than one word, and the least integer there is. -/
theorem fixedPointSum_modEq_words :
    let a := Catalog.fresh "fixed_point_sum" (.sum .fixedPoint) none
    let g := join (clone [⟨"a", .bigDecimal ⟨true, 184467440737095516255, 1, by decide, by decide⟩⟩,
        ⟨"b", .int (-1)⟩])
      (clone [⟨"c", .bigInteger (-(2 ^ 64 + 3))⟩, ⟨"d", .long Int64.minValue⟩])
    ∃ b n, g.run a = .ok b ∧ b.result? = some (.long n) ∧
      n.toInt ≡ -18446744073709551625 - 1 - (2 ^ 64 + 3) - 2 ^ 63 [ZMOD 2 ^ 64] := by
  intro a g
  have fresh : Catalog.aggregator "fixed_point_sum" none = .ok a := rfl
  have parts : (g.entries.map fun e => integerPart (a.valueOf e).exactNumber).sum =
      -18446744073709551625 - 1 - (2 ^ 64 + 3) - 2 ^ 63 := by
    have cut : integerPart (Decimal.number ⟨true, 184467440737095516255, 1, by decide, by decide⟩) =
        -18446744073709551625 := (Decimal.integerPart_number _).trans (by decide)
    have integer (n : Int) : integerPart n = n := integerPart_intCast n
    simp only [g, entries, List.cons_append, List.nil_append, List.map_cons, List.map_nil,
      List.sum_cons, List.sum_nil, a, valueOf, Catalog.fresh, Entry.extractOr, Option.getD_some,
      Value.exactNumber, cut, integer]
    decide
  rw [← parts]
  exact fixedPointSum_modEq fresh (by decide)

end Grouping

end DataGrid
