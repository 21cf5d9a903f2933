import DataGrid.Proofs.Number.ShortDouble
import DataGrid.Proofs.Value.TotalOrder
import Mathlib.Data.Rat.Cast.Order
import Mathlib.Order.WithBot
import Mathlib.Tactic.FieldSimp
import Mathlib.Tactic.GCongr
import Mathlib.Tactic.Linarith
import Mathlib.Tactic.Positivity
import Mathlib.Tactic.Zify

/-!
# The order of numbers across their kinds

Numbers of two kinds are compared through decimals or doubles, either of which may round. Main
statement: the answer is the order of the exact numbers unless the decimal of a long double or the
double of a number without a decimal got in the way (`compare?_spec`).
-/

namespace DataGrid

/-- Rational numbers with an infinity at either end. -/
abbrev Extended := WithBot (WithTop ℚ)

/-! ## Doubles in their order -/

namespace Binary64

/-- The number that a double stands for. -/
def number? (x : Binary64) : Option Extended :=
  if x.isNaN then none
  else if x.isInfinite then some (if x.negative then ⊥ else ⊤)
  else some ((x.units / one : ℚ) : WithTop ℚ)

/-- The magnitude of the double nearest to `n / d`. -/
def roundedMagnitude (n d : Nat) : Nat := min (nearest n d) topMagnitude

theorem roundedMagnitude_mono {n d n' d' : Nat} (hd : 0 < d) (hd' : 0 < d') (h : n * d' ≤ n' * d) :
    roundedMagnitude n d ≤ roundedMagnitude n' d' := by
  have := nearest_mono hd hd' h
  unfold roundedMagnitude
  omega

/-- The place of the double nearest to `a / b`. -/
def placeOf (a : Int) (b : Nat) : Int :=
  if a < 0 then -(roundedMagnitude a.natAbs b : Int) else roundedMagnitude a.natAbs b

theorem placeOf_mono {a a' : Int} {b b' : Nat} (hb : 0 < b) (hb' : 0 < b') (h : a * b' ≤ a' * b) :
    placeOf a b ≤ placeOf a' b' := by
  have posb : (0 : Int) < b := by omega
  have posb' : (0 : Int) < b' := by omega
  unfold placeOf
  split
  · next neg =>
    split
    · next neg' =>
      have back : a'.natAbs * b ≤ a.natAbs * b' := by
        zify
        rw [abs_of_neg neg, abs_of_neg neg']
        linarith
      have := roundedMagnitude_mono hb' hb back
      omega
    · omega
  · next pos =>
    have up : a.natAbs * b' ≤ a'.natAbs * b := by
      zify
      rw [abs_of_nonneg (by omega : 0 ≤ a)]
      exact Int.le_trans h (mul_le_mul_of_nonneg_right (le_abs_self a') posb.le)
    split
    · next neg' =>
      have := mul_neg_of_neg_of_pos neg' posb
      have := mul_nonneg (by omega : 0 ≤ a) posb'.le
      omega
    · have := roundedMagnitude_mono hb hb' up
      omega

theorem natAbs_placeOf_le (a : Int) (b : Nat) : (placeOf a b).natAbs ≤ topMagnitude := by
  have le : roundedMagnitude a.natAbs b ≤ topMagnitude := Nat.min_le_right ..
  unfold placeOf
  split <;> omega

theorem place_ofInt_eq (n : Int) : (ofInt n).place = placeOf n 1 := place_ofInt n

/-- A finite double is nearest to itself. -/
theorem place_eq_placeOf {x : Binary64} (finite : x.isFinite = true) :
    x.place = placeOf x.units one := by
  simp only [isFinite, decide_eq_true_iff] at finite
  have itself : roundedMagnitude (unitsOf x.magnitude) one = x.magnitude := by
    have := nearest_unitsOf x.magnitude Nat.one_pos
    rw [Nat.mul_one, Nat.mul_one] at this
    rw [roundedMagnitude, this]
    omega
  have zero : unitsOf x.magnitude = 0 → x.magnitude = 0 := fun e =>
    Nat.le_zero.1 (unitsOf_le_unitsOf (n := 0) |>.1 (Nat.le_of_eq e))
  unfold placeOf
  rw [natAbs_units, itself]
  unfold place units
  split <;> split <;> omega

/-- A double that is nearest to a number. -/
inductive Rounds : Extended → Binary64 → Prop
  | ratio {a : Int} {b : Nat} {x : Binary64} :
      0 < b → x.place = placeOf a b → Rounds ((a / b : ℚ) : WithTop ℚ) x
  | top {x : Binary64} : x.place = topMagnitude → Rounds ⊤ x
  | bottom {x : Binary64} : x.place = -topMagnitude → Rounds ⊥ x

theorem Rounds.natAbs_place_le {p : Extended} {x : Binary64} (h : Rounds p x) :
    x.place.natAbs ≤ topMagnitude := by
  cases h with
  | ratio _ place =>
    rw [place]
    exact natAbs_placeOf_le ..
  | top place | bottom place =>
    rw [place]
    omega

/-- Rounding keeps the order. -/
theorem Rounds.mono {p q : Extended} {x y : Binary64} (hx : Rounds p x) (hy : Rounds q y)
    (h : p ≤ q) : x.place ≤ y.place := by
  have := hx.natAbs_place_le
  have := hy.natAbs_place_le
  cases hx with
  | bottom place => omega
  | top place =>
    cases hy with
    | top place' => omega
    | bottom => exact absurd h (by decide)
    | ratio => exact absurd h (by simp)
  | @ratio a b _ hb place =>
    cases hy with
    | top place' => omega
    | bottom => exact absurd h (by simp)
    | @ratio a' b' _ hb' place' =>
      rw [place, place']
      refine placeOf_mono hb hb' ?_
      have posb : (0 : ℚ) < b := by exact_mod_cast hb
      have posb' : (0 : ℚ) < b' := by exact_mod_cast hb'
      have le : (a : ℚ) / b ≤ a' / b' := by exact_mod_cast h
      rw [div_le_div_iff₀ posb posb'] at le
      exact_mod_cast le

/-- What is rounded and what is not are told apart unless two doubles coincide. -/
theorem compare_units_eq_cmp {p q : Extended} {x y : Binary64} (up : p ≤ q → x.place ≤ y.place)
    (down : q ≤ p → y.place ≤ x.place) :
    compare x.units y.units = cmp p q ↔ ¬ (p ≠ q ∧ x.place = y.place) := by
  have le := @units_le_units x y
  have ge := @units_le_units y x
  rcases lt_trichotomy p q with lt | rfl | gt
  · have order : cmp p q = .lt := (cmp_eq_lt_iff _ _).2 lt
    have := up lt.le
    rw [order, Int.compare_eq_lt]
    simp only [ne_eq, lt.ne, not_false_eq_true, true_and]
    omega
  · have order : cmp p p = .eq := cmp_self_eq_eq p
    have := up le_rfl
    have := down le_rfl
    rw [order, Int.compare_eq_eq]
    simp only [ne_eq, not_true_eq_false, false_and, not_false_eq_true, iff_true]
    omega
  · have order : cmp p q = .gt := (cmp_eq_gt_iff _ _).2 gt
    have := down gt.le
    rw [order, Int.compare_eq_gt]
    simp only [ne_eq, gt.ne', not_false_eq_true, true_and]
    omega

/-- A double that is no NaN stands for a number. -/
theorem rounds_of_number? {x : Binary64} {p : Extended} (h : x.number? = some p) :
    x.isNaN = false ∧ Rounds p x := by
  unfold number? at h
  split at h
  · cases h
  · next ok =>
    refine ⟨by simpa using ok, ?_⟩
    split at h
    · next infinite =>
      simp only [isInfinite, decide_eq_true_iff] at infinite
      split at h <;> cases h
      · next neg => exact .bottom (by simp [place, neg, infinite])
      · next pos => exact .top (by simp [place, pos, infinite])
    · next finite =>
      cases h
      have bounded : x.isFinite = true := by
        simp only [isNaN, isInfinite, decide_eq_true_iff] at *
        simp only [isFinite, decide_eq_true_iff]
        omega
      exact .ratio one_pos (place_eq_placeOf bounded)

end Binary64

/-- The number that a decimal stands for. -/
def Decimal.number (d : Decimal) : ℚ := d.units / 10 ^ 28

namespace Value

open Binary64

/-- The integer that a value stands for. -/
def integer? : Value → Option Int
  | .int n => some n.toInt
  | .long n => some n.toInt
  | .bigInteger n => some n
  | _ => none

/-- The exact number that a value stands for. -/
def number? : Value → Option Extended
  | .int n => some ((n.toInt : ℚ) : WithTop ℚ)
  | .long n => some ((n.toInt : ℚ) : WithTop ℚ)
  | .double x => x.number?
  | .bigInteger n => some ((n : ℚ) : WithTop ℚ)
  | .bigDecimal d => some (d.number : WithTop ℚ)
  | _ => none

/-- Numbers but for NaN. -/
theorem isSome_number? (v : Value) : v.number?.isSome = (v.isNumeric && !v.isNaN) := by
  cases v with
  | double x =>
    simp only [number?, Binary64.number?, isNaN, isNumeric, kind, Kind.isNumeric, Bool.true_and]
    cases x.isNaN <;> cases x.isInfinite <;> rfl
  | _ => rfl

/-- A number whose decimal, if it has one, is exact: all but doubles with many digits. -/
def Short : Value → Prop
  | .double x => edge ≤ x.magnitude ∨ x.Short
  | _ => True

variable {v w : Value} {p q : Extended} {d : Decimal}

theorem number_eq_of_integer {n : Int} (h : d.units = n * 10 ^ 28) : d.number = n := by
  rw [Decimal.number, h]
  push_cast
  exact mul_div_cancel_right₀ _ (by positivity)

/-- The decimal is exact just if the number is short. -/
theorem number_of_toDecimal? (hp : v.number? = some p) (hd : v.toDecimal? = some d) :
    p = ((d.number : WithTop ℚ) : Extended) ↔ v.Short := by
  have integer {n : Int} (hn : Decimal.ofInt? n = some d) : (n : ℚ) = d.number := by
    by_cases fits : n.natAbs < 2 ^ 96
    · obtain ⟨e, he, units⟩ := Decimal.exists_ofInt? fits
      obtain rfl := Option.some.inj (he.symm.trans hn)
      exact (number_eq_of_integer units).symm
    · simp [Decimal.ofInt?_eq_none (Nat.not_lt.1 fits)] at hn
  cases v with
  | null | bool | text | list | object => cases hp
  | int n | long n | bigInteger n =>
    cases hp
    simp [Short, integer hd]
  | bigDecimal e =>
    cases hp
    cases hd
    simp [Short]
  | double x =>
    have below : x.magnitude < edge := by
      rw [← Nat.not_le]
      intro out
      simp [toDecimal?, Decimal.ofBinary?_eq_none out] at hd
    have top : edge < topMagnitude := by decide
    have nan : x.isNaN = false := by
      simp only [Binary64.isNaN, decide_eq_false_iff_not]
      omega
    have infinite : x.isInfinite = false := by
      simp only [isInfinite, decide_eq_false_iff_not]
      omega
    simp only [number?, Binary64.number?, nan, infinite, Bool.false_eq_true, if_false] at hp
    cases hp
    have units : (one : ℚ) ≠ 0 := by exact_mod_cast one_pos.ne'
    rw [Short, or_iff_right (Nat.not_le.2 below), ← Decimal.ofBinary?_exact_iff hd,
      WithBot.coe_inj, WithTop.coe_inj, Decimal.number, div_eq_div_iff units (by positivity),
      eq_comm]
    exact_mod_cast Iff.rfl

/-- A number between the decimals' ends, whose double is so too. -/
def Within (p : Extended) (x : Binary64) : Prop :=
  ((-2 ^ 96 : ℚ) : WithTop ℚ) < p ∧ p < ((2 ^ 96 : ℚ) : WithTop ℚ) ∧ x.place.natAbs < edge

/-- A number beyond the decimals, whose double is so too. -/
def Far (p : Extended) (x : Binary64) : Prop :=
  (((2 ^ 96 : ℚ) : WithTop ℚ) ≤ p ∧ (edge : Int) ≤ x.place) ∨
    (p ≤ ((-2 ^ 96 : ℚ) : WithTop ℚ) ∧ x.place ≤ -edge)

theorem rounds_ofInt (n : Int) : Rounds ((n : ℚ) : WithTop ℚ) (ofInt n) := by
  have := Rounds.ratio (a := n) Nat.one_pos (place_ofInt_eq n)
  rwa [Nat.cast_one, div_one] at this

/-- The double of a number is nearest to it, unless the number is a decimal with places. -/
theorem rounds_or_within (hp : v.number? = some p) :
    ∃ x, v.toBinary? = some x ∧ x.isNaN = false ∧ (Rounds p x ∨ Within p x) := by
  cases v with
  | null | bool | text | list | object => cases hp
  | int n | long n | bigInteger n =>
    cases hp
    exact ⟨_, rfl, isNaN_ofInt _, .inl (rounds_ofInt _)⟩
  | double x =>
    obtain ⟨ok, rounds⟩ := rounds_of_number? hp
    exact ⟨x, rfl, ok, .inl rounds⟩
  | bigDecimal d =>
    cases hp
    by_cases whole : d.scale = 0
    · have double : d.toBinary = ofInt d.signed := if_pos whole
      have number : d.number = d.signed := number_eq_of_integer (by rw [Decimal.units, whole])
      refine ⟨d.toBinary, rfl, ?_, .inl ?_⟩
      · rw [double]
        exact isNaN_ofInt _
      · rw [double, number]
        exact rounds_ofInt _
    · have below := Decimal.natAbs_place_toBinary whole
      have size := Decimal.natAbs_units_of_scale whole
      have top : edge < topMagnitude := by decide
      rw [Decimal.doubleLimit] at size
      have low : -2 ^ 96 * 10 ^ 28 < d.units := by omega
      have high : d.units < 2 ^ 96 * 10 ^ 28 := by omega
      refine ⟨d.toBinary, rfl, ?_, .inr ⟨?_, ?_, below⟩⟩
      · rw [natAbs_place] at below
        simp only [Binary64.isNaN, decide_eq_false_iff_not]
        omega
      · rw [WithBot.coe_lt_coe, WithTop.coe_lt_coe, Decimal.number, lt_div_iff₀ (by positivity)]
        exact_mod_cast low
      · rw [WithBot.coe_lt_coe, WithTop.coe_lt_coe, Decimal.number, div_lt_iff₀ (by positivity)]
        exact_mod_cast high

theorem far_ofInt {n : Int} (h : 2 ^ 96 ≤ n.natAbs) : Far ((n : ℚ) : WithTop ℚ) (ofInt n) := by
  rcases Int.le_total 0 n with pos | neg
  · have large : (2 : Int) ^ 96 ≤ n := by omega
    refine .inl ⟨?_, edge_le_place_ofInt large⟩
    rw [WithBot.coe_le_coe, WithTop.coe_le_coe]
    exact_mod_cast large
  · have large : n ≤ -2 ^ 96 := by omega
    have place := edge_le_place_ofInt (n := -n) (by omega)
    rw [place_ofInt_neg] at place
    refine .inr ⟨?_, by omega⟩
    rw [WithBot.coe_le_coe, WithTop.coe_le_coe]
    exact_mod_cast large

theorem far_of_edge_le {x : Binary64} (hp : x.number? = some p) (h : edge ≤ x.magnitude) :
    Far p x := by
  have pos : (0 : ℚ) < one := by exact_mod_cast one_pos
  have large : 2 ^ 96 * one ≤ unitsOf x.magnitude := by
    rw [← unitsOf_powerMagnitude]
    exact unitsOf_le_unitsOf.2 h
  have place : x.place = if x.negative then -(x.magnitude : Int) else x.magnitude := rfl
  have units : x.units = if x.negative then -(unitsOf x.magnitude : Int) else unitsOf x.magnitude :=
    rfl
  unfold Binary64.number? at hp
  split at hp
  · cases hp
  · by_cases neg : x.negative = true
    · rw [if_pos neg] at place units hp
      refine .inr ⟨?_, by omega⟩
      split at hp <;> cases hp
      · exact bot_le
      · have le : x.units ≤ -2 ^ 96 * one := by omega
        rw [WithBot.coe_le_coe, WithTop.coe_le_coe, div_le_iff₀ pos]
        exact_mod_cast le
    · rw [if_neg neg] at place units hp
      refine .inl ⟨?_, by omega⟩
      split at hp <;> cases hp
      · exact le_top
      · have le : 2 ^ 96 * one ≤ x.units := by omega
        rw [WithBot.coe_le_coe, WithTop.coe_le_coe, le_div_iff₀ pos]
        exact_mod_cast le

/-- A number without a decimal lies beyond them all. -/
theorem far_of_toDecimal?_eq_none (hp : v.number? = some p) (hd : v.toDecimal? = none) :
    ∃ x, v.toBinary? = some x ∧ x.isNaN = false ∧ Rounds p x ∧ Far p x := by
  have integer {n : Int} (hn : Decimal.ofInt? n = none) : 2 ^ 96 ≤ n.natAbs := by
    rw [← Nat.not_lt]
    intro fits
    obtain ⟨d, some, -⟩ := Decimal.exists_ofInt? fits
    simp [hn] at some
  cases v with
  | null | bool | text | list | object => cases hp
  | int n | long n | bigInteger n =>
    cases hp
    exact ⟨_, rfl, isNaN_ofInt _, rounds_ofInt _, far_ofInt (integer hd)⟩
  | bigDecimal d => cases hd
  | double x =>
    obtain ⟨ok, rounds⟩ := rounds_of_number? hp
    refine ⟨x, rfl, ok, rounds, far_of_edge_le hp ?_⟩
    rw [← Nat.not_lt]
    intro below
    obtain ⟨d, some, -⟩ := Decimal.exists_ofBinary? below
    simp [toDecimal?, some] at hd

/-- Beside a number beyond the decimals, doubles are in the order of the numbers. -/
theorem place_mono_of_far {x y : Binary64} (hx : Rounds p x ∨ Within p x) (hy : Rounds q y)
    (far : Far q y) :
    (p ≤ q → x.place ≤ y.place) ∧ (q ≤ p → y.place ≤ x.place) := by
  rcases hx with rounds | ⟨low, high, below⟩
  · exact ⟨rounds.mono hy, hy.mono rounds⟩
  · rcases far with ⟨above, place⟩ | ⟨under, place⟩
    · exact ⟨fun _ => by omega, fun le => absurd (above.trans le) (not_le.2 high)⟩
    · exact ⟨fun le => absurd (le.trans under) (not_le.2 low), fun _ => by omega⟩

/-! ## Comparisons -/

/-- One of two different numbers has no decimal, and both have one double. -/
def Blurred (v w : Value) : Prop :=
  (v.toDecimal? = none ∨ w.toDecimal? = none) ∧ v.number? ≠ w.number? ∧
    v.toBinary? = w.toBinary?

/-- The decimals of two numbers are not in the order of the numbers. -/
def Crossed (v w : Value) (p q : Extended) : Prop :=
  ∃ d e, v.toDecimal? = some d ∧ w.toDecimal? = some e ∧ cmp d.number e.number ≠ cmp p q

theorem eq_of_place_eq {x y : Binary64} (h : x.place = y.place) (far : edge ≤ y.place.natAbs) :
    x = y := by
  have pos : 0 < edge := by decide
  have size := natAbs_place x
  have size' := natAbs_place y
  have sign (z : Binary64) (hz : edge ≤ z.place.natAbs) : z.negative = decide (z.place < 0) := by
    rw [natAbs_place] at hz
    unfold place
    cases z.negative with
    | false => simp
    | true =>
      simp
      omega
  rw [x.eq_pack, y.eq_pack, sign x (h ▸ far), sign y far, ← size, ← size', h]

theorem numericCompare?_of_far (hp : v.number? = some p) (hq : w.number? = some q)
    (hw : w.toDecimal? = none) :
    ∃ o, v.numericCompare? w = some o ∧ (o = cmp p q ↔ ¬ Blurred v w) := by
  obtain ⟨x, hx, okx, placed⟩ := rounds_or_within hp
  obtain ⟨y, hy, oky, rounds, far⟩ := far_of_toDecimal?_eq_none hq hw
  obtain ⟨up, down⟩ := place_mono_of_far placed rounds far
  have same : x.place = y.place ↔ x = y := by
    refine ⟨fun h => eq_of_place_eq h ?_, congrArg _⟩
    rcases far with ⟨-, place⟩ | ⟨-, place⟩ <;> omega
  have blurred : Blurred v w ↔ p ≠ q ∧ x.place = y.place := by
    simp [Blurred, hw, hp, hq, hx, hy, same]
  refine ⟨compare x.units y.units, ?_, ?_⟩
  · unfold numericCompare?
    simp [hw, hx, hy, Binary64.compare?, okx, oky]
  · rw [compare_units_eq_cmp up down, blurred]

theorem numericCompare?_of_decimals {d e : Decimal} (hd : v.toDecimal? = some d)
    (he : w.toDecimal? = some e) : v.numericCompare? w = some (cmp d.number e.number) := by
  have order : d.compare e = cmp d.number e.number := by
    have scaled : StrictMono fun n : Int => (n / 10 ^ 28 : ℚ) := by
      intro m n lt
      exact div_lt_div_of_pos_right (by exact_mod_cast lt) (by positivity)
    rw [Decimal.number, Decimal.number, scaled.cmp_map_eq, Decimal.compare, cmp_eq_compare]
  unfold numericCompare?
  rw [hd, he, ← order]

theorem blurred_comm : Blurred v w ↔ Blurred w v := by
  unfold Blurred
  rw [or_comm, ne_comm, eq_comm (a := v.toBinary?)]

theorem numericCompare?_spec (hp : v.number? = some p) (hq : w.number? = some q) :
    ∃ o, v.numericCompare? w = some o ∧
      (o = cmp p q ↔ ¬ (Crossed v w p q ∨ Blurred v w)) := by
  cases hw : w.toDecimal? with
  | none =>
    obtain ⟨o, ho, exact⟩ := numericCompare?_of_far hp hq hw
    have straight : ¬ Crossed v w p q := by
      rintro ⟨d, e, -, he, -⟩
      cases hw.symm.trans he
    refine ⟨o, ho, ?_⟩
    rw [or_iff_right straight, exact]
  | some e =>
    cases hv : v.toDecimal? with
    | none =>
      obtain ⟨o, ho, exact⟩ := numericCompare?_of_far hq hp hv
      have straight : ¬ Crossed v w p q := by
        rintro ⟨d, e, hd, -⟩
        cases hv.symm.trans hd
      refine ⟨o.swap, by rw [numericCompare?_swap w v, ho]; rfl, ?_⟩
      rw [or_iff_right straight, blurred_comm, ← exact, ← cmp_swap q p, Ordering.swap_inj]
    | some d =>
      have sharp : ¬ Blurred v w := by
        rintro ⟨missing, -⟩
        simp [hv, hw] at missing
      have crossed : Crossed v w p q ↔ cmp d.number e.number ≠ cmp p q := by
        refine ⟨?_, fun h => ⟨d, e, hv, hw, h⟩⟩
        rintro ⟨d', e', hd, he, h⟩
        rw [hv, Option.some.injEq] at hd
        rw [hw, Option.some.injEq] at he
        rwa [hd, he]
      refine ⟨_, numericCompare?_of_decimals hv hw, ?_⟩
      rw [or_iff_left sharp, crossed, not_not]

/-- Exact decimals are in the order of the numbers. -/
theorem not_crossed (hp : v.number? = some p) (hq : w.number? = some q) (short : v.Short)
    (short' : w.Short) : ¬ Crossed v w p q := by
  rintro ⟨d, e, hd, he, crossed⟩
  have hv := (number_of_toDecimal? hp hd).2 short
  have hw := (number_of_toDecimal? hq he).2 short'
  have embedding : StrictMono fun r : ℚ => ((r : WithTop ℚ) : Extended) :=
    fun r s lt => WithBot.coe_lt_coe.2 (WithTop.coe_lt_coe.2 lt)
  refine crossed ?_
  rw [hv, hw]
  exact (embedding.cmp_map_eq d.number e.number).symm

/-- Integers of one kind are in the order of their numbers. -/
theorem naturalCompare?_eq_cmp {m n : Int} (hm : v.integer? = some m) (hn : w.integer? = some n)
    (kind : v.kind = w.kind) (hp : v.number? = some p) (hq : w.number? = some q) :
    v.naturalCompare? w = some (cmp p q) := by
  have embedding : StrictMono fun k : Int => (((k : ℚ) : WithTop ℚ) : Extended) :=
    fun k l lt => WithBot.coe_lt_coe.2 (WithTop.coe_lt_coe.2 (by exact_mod_cast lt))
  have order (k l : Int) : Ord.compare k l =
      cmp (((k : ℚ) : WithTop ℚ) : Extended) ((l : ℚ) : WithTop ℚ) := by
    rw [← cmp_eq_compare]
    exact (embedding.cmp_map_eq k l).symm
  cases v <;> cases hm <;> cases w <;> cases hn <;> cases kind <;> cases hp <;> cases hq <;>
    exact congrArg some (order _ _)

/-- Two numbers but NaN always compare. The answer is the order of the exact numbers, and they are
loosely equal when the exact numbers are, just if neither their decimals are in another order nor
their doubles coincide. The former takes a double with many digits, and the latter a number without
a decimal. Integers of one kind have the exact order as their natural one. -/
theorem compare?_spec (hp : v.number? = some p) (hq : w.number? = some q) :
    ∃ o, v.compare? w = some o ∧ (v.looseEq w = true ↔ o = .eq) ∧
      (o = cmp p q ↔ ¬ (Crossed v w p q ∨ Blurred v w)) ∧
      (v.Short → w.Short → ¬ Crossed v w p q) ∧
      ∀ m n, v.integer? = some m → w.integer? = some n → v.kind = w.kind →
        v.naturalCompare? w = some (cmp p q) := by
  have number {u : Value} {r : Extended} (h : u.number? = some r) : u.isNumeric = true := by
    have := u.isSome_number?
    rw [h] at this
    simp at this
    exact this.1
  obtain ⟨o, ho, exact⟩ := numericCompare?_spec hp hq
  have answer : v.compare? w = some o := by simp [compare?, number hp, number hq, ho]
  refine ⟨o, answer, ?_, exact, not_crossed hp hq, fun m n hm hn kind => ?_⟩
  · simp [looseEq, number hp, number hq, answer]
  · exact naturalCompare?_eq_cmp hm hn kind hp hq

/-- An integer and a decimal with places. -/
theorem compare?_spec_places :
    let v := int 3
    let w := bigDecimal ⟨false, 25, 1, by decide, by decide⟩
    ¬ Crossed v w ((3 : ℚ) : WithTop ℚ) ((5 / 2 : ℚ) : WithTop ℚ) ∧ ¬ Blurred v w ∧
      v.compare? w = some .gt := by
  intro v w
  have hv : v.number? = some ((3 : ℚ) : WithTop ℚ) := by
    simp only [v, number?]
    norm_num
    rfl
  have hw : w.number? = some ((5 / 2 : ℚ) : WithTop ℚ) := by
    have units : Decimal.units ⟨false, 25, 1, by decide, by decide⟩ = 25 * 10 ^ 27 := by decide
    simp only [w, number?, Decimal.number, units]
    norm_num
  obtain ⟨o, answer, -, exact, straight, -⟩ := compare?_spec hv hw
  have straight := straight trivial trivial
  have sharp : ¬ Blurred v w := by
    rintro ⟨missing | missing, -⟩ <;> cases missing
  have order : o = .gt := by
    rw [exact.2 (not_or.2 ⟨straight, sharp⟩), cmp_eq_gt_iff, WithBot.coe_lt_coe, WithTop.coe_lt_coe]
    norm_num
  exact ⟨straight, sharp, order ▸ answer⟩

/-- From `2 ^ 96` on integers are compared as doubles, which do not tell them apart; doubles before
it are compared as decimals, which do not tell the double of a tenth from the next one. -/
theorem compare?_not_exact :
    (let v := bigInteger (2 ^ 96)
     let w := bigInteger (2 ^ 96 + 1)
     v.compare? w = some .eq ∧ v.looseEq w = true ∧ v.naturalCompare? w = some .lt) ∧
    (let v := double ⟨0x3fb999999999999a⟩
     let w := double ⟨0x3fb999999999999b⟩
     v.compare? w = some .eq ∧ v.looseEq w = true ∧ v.naturalCompare? w = some .lt) := by
  decide +kernel

end Value

end DataGrid
