import DataGrid.Proofs.Number.DecimalRange
import Mathlib.Tactic.Ring

/-!
# Sums of decimals

A sum of two decimals is rounded where it does not fit at the larger scale of the two. Main
statement: it is the exact sum just when there is a decimal of the exact sum (`add?_exact_iff`);
in any case it is off by half a unit of its last place at most (`two_mul_natAbs_sub_le_of_add?`).
-/

namespace DataGrid

/-- What is rounded moves by half the divisor at most. -/
theorem two_mul_natAbs_roundEven_sub_le (n : Nat) {d : Nat} (hd : 0 < d) :
    2 * ((roundEven n d * d : Nat) - n : Int).natAbs ≤ d := by
  have whole := Nat.div_add_mod n d
  have lt := Nat.mod_lt n hd
  have up : (n / d + 1) * d = d * (n / d) + d := by grind
  have down : n / d * d = d * (n / d) := Nat.mul_comm _ _
  unfold roundEven
  dsimp only
  split
  · omega
  · split
    · omega
    · rcases Nat.mod_two_eq_zero_or_one (n / d) with even | odd
      · rw [even, Nat.add_zero]
        omega
      · rw [odd]
        omega

/-- What the divisor divides is not rounded. -/
theorem roundEven_of_dvd {n d : Nat} (hd : 0 < d) (h : d ∣ n) : roundEven n d = n / d := by
  obtain ⟨q, rfl⟩ := h
  rw [Nat.mul_div_cancel_left q hd, Nat.mul_comm d q, roundEven_mul_right q hd]

namespace Decimal

variable {x y z : Decimal} {neg : Bool} {c d n s t : Nat}

theorem make?_eq_some_iff :
    make? neg c t = some z ↔ z.negative = neg ∧ z.coefficient = c ∧ z.scale = t := by
  unfold make?
  split
  · rw [Option.some.injEq]
    constructor
    · rintro rfl
      exact ⟨rfl, rfl, rfl⟩
    · obtain ⟨_, _, _, _, _⟩ := z
      rintro ⟨rfl, rfl, rfl⟩
      rfl
  · next out =>
    simp only [reduceCtorEq, false_iff, not_and]
    rintro - rfl rfl
    exact out ⟨z.coefficient_lt, z.scale_le⟩

theorem make?_eq_none_iff (ht : t ≤ 28) : make? neg c t = none ↔ 2 ^ 96 ≤ c := by
  unfold make?
  split <;> simp only [reduceCtorEq, false_iff, true_iff] <;> omega

/-- What fits is rounded at the last place from which it does. -/
theorem fit_cases (neg : Bool) (n d : Nat) (hs : s ≤ 28) :
    fit neg n d s = none ∧ (∀ j ≤ s, 2 ^ 96 ≤ roundEven n (d * 10 ^ j)) ∨
      ∃ k ≤ s, (∀ j < k, 2 ^ 96 ≤ roundEven n (d * 10 ^ j)) ∧
        ∃ z, fit neg n d s = some z ∧ z.negative = neg ∧
          z.coefficient = roundEven n (d * 10 ^ k) ∧ z.scale = s - k := by
  have full {j : Nat} : make? neg (roundEven n (d * 10 ^ j)) (s - j) = none ↔
      2 ^ 96 ≤ roundEven n (d * 10 ^ j) := make?_eq_none_iff (by omega)
  cases h : fit neg n d s with
  | none =>
    refine .inl ⟨rfl, fun j hj => full.1 ?_⟩
    exact List.findSome?_eq_none_iff.1 h j (List.mem_range.2 (by omega))
  | some z =>
    obtain ⟨before, k, after, whole, made, earlier⟩ := List.findSome?_eq_some_iff.1 h
    have place : k ∈ List.range (s + 1) := by simp [whole]
    have sorted : ∀ b ∈ after, k < b := by
      have sorted := whole ▸ List.pairwise_lt_range (n := s + 1)
      exact (List.pairwise_cons.1 (List.pairwise_append.1 sorted).2.1).1
    refine .inr ⟨k, by simpa [Nat.lt_succ_iff] using place, fun j hj => full.1 (earlier j ?_), z,
      rfl, make?_eq_some_iff.1 made⟩
    -- A smaller place does not come later.
    have there : j ∈ before ++ k :: after := by
      rw [← whole, List.mem_range]
      have := List.mem_range.1 place
      omega
    rcases List.mem_append.1 there with first | later
    · exact first
    · rcases List.mem_cons.1 later with rfl | later
      · omega
      · have := sorted j later
        omega

/-- The distance from a number of the same sign. -/
theorem natAbs_units_sub {m : Int} (sign : z.negative = decide (m < 0)) (u : Nat) :
    (z.units - m * u).natAbs =
      (((z.coefficient * 10 ^ (28 - z.scale) : Nat) : Int) - (m.natAbs * u : Nat)).natAbs := by
  have power : z.units = z.signed * (10 ^ (28 - z.scale) : Nat) := by
    rw [units, Int.natCast_pow]
    rfl
  rw [power, signed, sign]
  generalize 10 ^ (28 - z.scale) = w
  obtain ⟨a, rfl | rfl⟩ := Int.eq_nat_or_neg m
  · have above : ¬ (a : Int) < 0 := by omega
    simp [above]
  · by_cases zero : a = 0
    · simp [zero]
    · have below : -(a : Int) < 0 := by omega
      simp only [below, decide_true, if_true, Int.natAbs_neg, Int.natAbs_natCast]
      push_cast
      rw [← Int.natAbs_neg]
      congr 1
      ring

theorem units_eq_mul (h : x.scale ≤ s) (hs : s ≤ 28) :
    x.units = x.signed * 10 ^ (s - x.scale) * (10 ^ (28 - s) : Nat) := by
  have split : 28 - x.scale = (s - x.scale) + (28 - s) := by omega
  rw [units, split, Int.pow_add, Int.mul_assoc]
  rfl

/-- A sum is one of the operands, or what fits of the sum at the larger scale. -/
theorem add?_cases (x y : Decimal) :
    (∃ z, x.add? y = some z ∧ z.units = x.units + y.units) ∨
      ∃ m s, s ≤ 28 ∧ x.add? y = fit (m < 0) m.natAbs 1 s ∧
        x.units + y.units = m * (10 ^ (28 - s) : Nat) := by
  unfold add?
  split
  · next zero =>
    rw [isZero_iff] at zero
    exact .inl ⟨y, rfl, by omega⟩
  · split
    · next zero =>
      rw [isZero_iff] at zero
      exact .inl ⟨x, rfl, by omega⟩
    · have hs : max x.scale y.scale ≤ 28 := Nat.max_le.2 ⟨x.scale_le, y.scale_le⟩
      refine .inr ⟨_, _, hs, rfl, ?_⟩
      rw [units_eq_mul (Nat.le_max_left ..) hs, units_eq_mul (Nat.le_max_right ..) hs,
        Int.add_mul]

/-- Where a sum comes from: the place `k` at which it is rounded is the last one that works. -/
theorem sub_of_fit {m : Int} {k : Nat} (hs : s ≤ 28) (hk : k ≤ s)
    (sign : z.negative = decide (m < 0)) (coefficient : z.coefficient = roundEven m.natAbs (10 ^ k))
    (scale : z.scale = s - k) :
    (z.units - m * (10 ^ (28 - s) : Nat)).natAbs =
      ((roundEven m.natAbs (10 ^ k) * 10 ^ k : Nat) - (m.natAbs : Nat) : Int).natAbs *
        10 ^ (28 - s) := by
  have place : 28 - (s - k) = k + (28 - s) := by omega
  rw [natAbs_units_sub sign, coefficient, scale, place, Nat.pow_add, ← Nat.mul_assoc,
    Int.natCast_mul _ (10 ^ (28 - s)), Int.natCast_mul _ (10 ^ (28 - s)), ← Int.sub_mul,
    Int.natAbs_mul, Int.natAbs_natCast]

/-- A sum is off by half a unit of its last place at most. -/
theorem two_mul_natAbs_sub_le_of_add? (h : x.add? y = some z) :
    2 * (z.units - (x.units + y.units)).natAbs ≤ 10 ^ (28 - z.scale) := by
  rcases add?_cases x y with ⟨z', h', exact⟩ | ⟨m, s, hs, sum, units⟩
  · obtain rfl := Option.some.inj (h'.symm.trans h)
    simp [exact]
  · rcases fit_cases (m < 0) m.natAbs 1 hs with ⟨none, -⟩ | ⟨k, hk, -, z', fits, sign, c, scale⟩
    · simp [sum, none] at h
    · obtain rfl := Option.some.inj (fits.symm.trans (sum.symm.trans h))
      rw [Nat.one_mul] at c
      have near :=
        two_mul_natAbs_roundEven_sub_le m.natAbs (Nat.pow_pos (n := k) (by decide : 0 < 10))
      rw [units, sub_of_fit hs hk sign c scale, scale, show 28 - (s - k) = k + (28 - s) by omega,
        Nat.pow_add, ← Nat.mul_assoc]
      exact Nat.mul_le_mul_right _ near

/-- The places that a decimal does without are zeros of an equal number. -/
theorem exists_zeros (d : Decimal) (hs : s ≤ 28) (h : d.units.natAbs = n * 10 ^ (28 - s)) :
    ∃ j ≤ s, 10 ^ j ∣ n ∧ n / 10 ^ j < 2 ^ 96 := by
  have bound := d.coefficient_lt
  have power (k : Nat) : 0 < 10 ^ k := Nat.pow_pos (by decide)
  rw [natAbs_units] at h
  rcases Nat.le_total s d.scale with le | le
  · have split : 28 - s = (d.scale - s) + (28 - d.scale) := by
      have := d.scale_le
      omega
    rw [split, Nat.pow_add, ← Nat.mul_assoc] at h
    have same := Nat.eq_of_mul_eq_mul_right (power _) h
    have := Nat.le_mul_of_pos_right n (power (d.scale - s))
    refine ⟨0, Nat.zero_le s, ?_⟩
    rw [Nat.pow_zero, Nat.div_one]
    exact ⟨Nat.one_dvd n, by omega⟩
  · have split : 28 - d.scale = (s - d.scale) + (28 - s) := by omega
    rw [split, Nat.pow_add, ← Nat.mul_assoc] at h
    obtain rfl := Nat.eq_of_mul_eq_mul_right (power _) h
    refine ⟨s - d.scale, Nat.sub_le .., Nat.dvd_mul_left .., ?_⟩
    rwa [Nat.mul_div_cancel _ (power _)]

/-- A sum is exact just when there is a decimal of it. -/
theorem add?_exact_iff (x y : Decimal) :
    (∃ z, x.add? y = some z ∧ z.units = x.units + y.units) ↔
      ∃ d : Decimal, d.units = x.units + y.units := by
  refine ⟨fun ⟨z, _, exact⟩ => ⟨z, exact⟩, fun ⟨d, hd⟩ => ?_⟩
  rcases add?_cases x y with exact | ⟨m, s, hs, sum, units⟩
  · exact exact
  obtain ⟨j, hj, zeros, small⟩ := d.exists_zeros (n := m.natAbs) hs (by
    rw [hd, units, Int.natAbs_mul, Int.natAbs_natCast])
  have whole {k : Nat} (hk : k ≤ j) : 10 ^ k ∣ m.natAbs :=
    Nat.dvd_trans (Nat.pow_dvd_pow 10 hk) zeros
  have rounded {k : Nat} (hk : k ≤ j) : roundEven m.natAbs (10 ^ k) = m.natAbs / 10 ^ k :=
    roundEven_of_dvd (Nat.pow_pos (by decide)) (whole hk)
  have room : ¬ 2 ^ 96 ≤ roundEven m.natAbs (1 * 10 ^ j) := by
    rw [Nat.one_mul, rounded (Nat.le_refl j)]
    omega
  rcases fit_cases (m < 0) m.natAbs 1 hs with ⟨-, full⟩ | ⟨k, hk, full, z, fits, sign, c, scale⟩
  · exact absurd (full j hj) room
  · have le : k ≤ j := Nat.le_of_not_lt fun after => room (full j after)
    rw [Nat.one_mul] at c
    have off := sub_of_fit hs hk sign c scale
    rw [rounded le, Nat.div_mul_cancel (whole le)] at off
    refine ⟨z, sum.trans fits, ?_⟩
    rw [units]
    simpa [Int.sub_eq_zero] using off

end Decimal

end DataGrid
