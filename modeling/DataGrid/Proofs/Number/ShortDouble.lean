import DataGrid.Proofs.Number.DecimalAddition
import Mathlib.Data.Nat.Factorization.Basic

/-!
# Doubles with exact decimals

The decimal of a double keeps about fifteen digits. So it is the number itself for the doubles that
are integers, and for those with fewer digits than that; all others are rounded. Main statement:
`ofBinary?_exact_iff`.
-/

namespace DataGrid

namespace Binary64

/-- An integer, or a number with digits below `2 ^ 52` and 28 places at most. -/
def Short (x : Binary64) : Prop :=
  one ∣ x.units.natAbs ∨ ∃ c j : Nat, c < 2 ^ 52 ∧ j ≤ 28 ∧ x.units.natAbs * 10 ^ j = c * one

theorem natAbs_units (x : Binary64) : x.units.natAbs = unitsOf x.magnitude := by
  unfold units
  split <;> omega

/-- The digits of a magnitude, without its power of two. -/
def mantissa (m : Nat) : Nat := if m < 2 ^ 52 then m else m % 2 ^ 52 + 2 ^ 52

theorem unitsOf_eq (m : Nat) : unitsOf m = mantissa m * 2 ^ (m / 2 ^ 52 - 1) := by
  unfold unitsOf mantissa
  split
  · have : m / 2 ^ 52 - 1 = 0 := by omega
    rw [this, Nat.pow_zero, Nat.mul_one]
  · rfl

end Binary64

namespace Decimal

open Binary64

variable {x : Binary64} {d : Decimal} {s : Bool} {n c i j k t : Nat} {tens : Int}

namespace Register

theorem multiplyFives_halves (t k n : Nat) (tens : Int) :
    multiplyFives (t + k) ⟨n * 2 ^ t, tens⟩ = multiplyFives k ⟨n, tens + t⟩ := by
  induction t generalizing tens with
  | zero => simp
  | succ t ih =>
    have double : n * 2 ^ (t + 1) = n * 2 ^ t * 2 := by rw [Nat.pow_succ, Nat.mul_assoc]
    have even : n * 2 ^ (t + 1) % 2 = 0 := by omega
    have half : n * 2 ^ (t + 1) / 2 = n * 2 ^ t := by omega
    rw [Nat.add_right_comm, multiplyFives]
    simp only [even, half, if_true]
    rw [ih]
    congr 2
    omega

theorem multiplyFives_odd (k : Nat) {n : Nat} (odd : n % 2 = 1) (room : n * 5 ^ k < 2 ^ 96) :
    multiplyFives k ⟨n, tens⟩ = ⟨n * 5 ^ k, tens⟩ := by
  induction k generalizing n with
  | zero => simp [multiplyFives]
  | succ k ih =>
    have more : n * 5 * 5 ^ k < 2 ^ 96 := by rwa [Nat.mul_assoc, ← Nat.pow_succ']
    have fits : n * 5 < 2 ^ 96 :=
      Nat.lt_of_le_of_lt (Nat.le_mul_of_pos_right _ (Nat.pow_pos (by decide))) more
    have not_even : ¬ n % 2 = 0 := by omega
    rw [multiplyFives]
    simp only [if_neg not_even, if_pos fits]
    rw [ih (by omega) more, Nat.mul_assoc, ← Nat.pow_succ']

theorem trimPlaces_lt (k n : Nat) : (trimPlaces k n).2 ≠ 0 → (trimPlaces k n).1 < 2 ^ 52 := by
  induction k generalizing n with
  | zero => simp [trimPlaces]
  | succ k ih =>
    unfold trimPlaces
    split
    · exact ih _
    · next short =>
      intro
      dsimp only
      omega

/-- A decimal of a register has its sign, and few digits if it has places. -/
theorem toDecimal?_spec {r : Register} (h : r.toDecimal? s = some d) :
    d.negative = s ∧ (d.scale ≠ 0 → d.coefficient < 2 ^ 52) := by
  unfold toDecimal? at h
  split at h
  · obtain ⟨c, -, made⟩ := Option.bind_eq_some_iff.1 h
    obtain ⟨sign, -, scale⟩ := make?_eq_some_iff.1 made
    exact ⟨sign, fun places => absurd scale places⟩
  · dsimp only at h
    split at h
    · obtain ⟨sign, -, scale⟩ := make?_eq_some_iff.1 h
      exact ⟨sign, fun places => absurd scale places⟩
    · have short :=
        trimPlaces_lt (min (-r.tens).toNat 28) (dropPlaces ((-r.tens).toNat - 28) r.bits).1
      generalize trimPlaces _ _ = kept at h short
      obtain ⟨sign, coefficient, scale⟩ := make?_eq_some_iff.1 h
      have le := stripZeros_fst_le kept.1 kept.2
      refine ⟨sign, fun places => ?_⟩
      have := short (by omega)
      omega

/-- A register with few digits and places is kept as it is. -/
theorem exists_toDecimal?_short (s : Bool) (hn : n < 2 ^ 52) (places : k + 1 ≤ 28) :
    ∃ d, toDecimal? s ⟨n, -(k + 1 : Nat)⟩ = some d ∧
      d.coefficient * 10 ^ (28 - d.scale) = n * 10 ^ (28 - (k + 1)) := by
  have whole := stripZeros_mul n (k + 1)
  have removed_le := stripZeros_le n (k + 1)
  have c_le := stripZeros_fst_le n (k + 1)
  have few : (-(-((k + 1 : Nat) : Int))).toNat = k + 1 := by omega
  have long : ¬ 2 ^ 52 ≤ n := by omega
  have room : (stripZeros n (k + 1)).1 < 2 ^ 96 ∧ k + 1 - (stripZeros n (k + 1)).2 ≤ 28 := by omega
  refine ⟨⟨s, _, _, room.1, room.2⟩, ?_, ?_⟩
  · have negative : ¬ (0 : Int) ≤ -(k + 1 : Nat) := by omega
    unfold toDecimal?
    simp only [if_neg negative, few, Nat.sub_eq_zero_of_le places, dropPlaces,
      Nat.min_eq_left places, trimPlaces, if_neg long, make?, dif_pos room, Bool.not_true,
      Bool.false_eq_true, if_false]
  · have split : 28 - (k + 1 - (stripZeros n (k + 1)).2) =
        (stripZeros n (k + 1)).2 + (28 - (k + 1)) := by omega
    dsimp only
    rw [split, Nat.pow_add, ← Nat.mul_assoc, whole]

theorem toDecimal?_integer (s : Bool) (hn : n < 2 ^ 96) :
    ∃ d, toDecimal? s ⟨n, 0⟩ = some d ∧ d.coefficient * 10 ^ (28 - d.scale) = n * 10 ^ 28 := by
  have room : n < 2 ^ 96 ∧ 0 ≤ 28 := by omega
  exact ⟨⟨s, n, 0, room.1, room.2⟩, by simp [toDecimal?, clearTens?, make?, room], rfl⟩

end Register

/-! ## The decimal of a double -/

theorem ofBinary?_eq (x : Binary64) : ofBinary? x =
    if !x.isFinite then none
    else if mantissa x.magnitude = 0 then make? x.negative 0 0
    else
      let e : Int := (x.magnitude / 2 ^ 52 - 1 : Nat) - 1074
      (if e ≤ 0 then some (Register.multiplyFives (-e).toNat ⟨mantissa x.magnitude, e⟩)
        else Register.divideFives? e.toNat ⟨mantissa x.magnitude, e⟩).bind
          (·.toDecimal? x.negative) := rfl

theorem negative_of_ofBinary? (h : ofBinary? x = some d) :
    d.negative = x.negative ∧ (d.scale ≠ 0 → d.coefficient < 2 ^ 52) := by
  rw [ofBinary?_eq] at h
  split at h
  · cases h
  · split at h
    · obtain ⟨sign, -, scale⟩ := make?_eq_some_iff.1 h
      exact ⟨sign, fun places => absurd scale places⟩
    · obtain ⟨r, -, made⟩ := Option.bind_eq_some_iff.1 h
      exact Register.toDecimal?_spec made

/-- The size of the decimal of a double is the size of the double. -/
def SameSize (d : Decimal) (m : Nat) : Prop :=
  d.coefficient * 10 ^ (28 - d.scale) * one = unitsOf m * 10 ^ 28

theorem units_mul_eq_iff (sign : d.negative = x.negative) :
    d.units * one = x.units * 10 ^ 28 ↔ SameSize d x.magnitude := by
  have size : d.units = if x.negative then -((d.coefficient * 10 ^ (28 - d.scale) : Nat) : Int)
      else (d.coefficient * 10 ^ (28 - d.scale) : Nat) := by
    rw [units, signed, sign]
    split <;> simp
  rw [size, Binary64.units, SameSize]
  generalize d.coefficient * 10 ^ (28 - d.scale) = a
  generalize unitsOf x.magnitude = b
  generalize one = c
  split
  · rw [Int.neg_mul, Int.neg_mul, Int.neg_inj]
    exact_mod_cast Iff.rfl
  · exact_mod_cast Iff.rfl

theorem short_of_sameSize (h : ofBinary? x = some d) (same : SameSize d x.magnitude) :
    x.Short := by
  obtain ⟨-, few⟩ := negative_of_ofBinary? h
  have ten (k : Nat) : 0 < 10 ^ k := Nat.pow_pos (by decide)
  rw [SameSize, Nat.mul_right_comm] at same
  rw [Short, Binary64.natAbs_units]
  by_cases whole : d.scale = 0
  · refine .inl ⟨d.coefficient, ?_⟩
    rw [whole] at same
    rw [Nat.mul_comm one]
    exact (Nat.eq_of_mul_eq_mul_right (ten 28) same).symm
  · refine .inr ⟨d.coefficient, d.scale, few whole, d.scale_le, ?_⟩
    have split : 10 ^ 28 = 10 ^ d.scale * 10 ^ (28 - d.scale) := by
      rw [← Nat.pow_add, Nat.add_sub_cancel' d.scale_le]
    rw [split, ← Nat.mul_assoc] at same
    exact (Nat.eq_of_mul_eq_mul_right (ten _) same).symm

/-- Odd digits over a power of two, as a decimal fraction: it needs as many places. -/
theorem places_of_odd (odd : n % 2 = 1) (h : n * 10 ^ j = c * 2 ^ i) : i ≤ j ∧ n * 5 ^ i ≤ c := by
  have split (k : Nat) : 10 ^ k = 5 ^ k * 2 ^ k := (Nat.mul_pow 5 2 k)
  have two (k : Nat) : 0 < 2 ^ k := Nat.two_pow_pos k
  rw [split, ← Nat.mul_assoc] at h
  have le : i ≤ j := by
    rw [← Nat.not_lt]
    intro lt
    obtain ⟨k, rfl⟩ := Nat.exists_eq_add_of_lt lt
    have odd' : n * 5 ^ j % 2 = 1 := by
      rw [Nat.mul_mod, Nat.pow_mod, odd]
      simp
    rw [Nat.add_assoc, Nat.add_comm j, Nat.pow_add, ← Nat.mul_assoc] at h
    have even := Nat.eq_of_mul_eq_mul_right (two j) h
    rw [Nat.pow_succ, ← Nat.mul_assoc] at even
    omega
  refine ⟨le, ?_⟩
  obtain ⟨k, rfl⟩ := Nat.exists_eq_add_of_le le
  rw [Nat.add_comm i, Nat.pow_add 2, ← Nat.mul_assoc] at h
  have eq := Nat.eq_of_mul_eq_mul_right (two i) h
  rw [← eq, Nat.add_comm k, Nat.pow_add, Nat.mul_assoc, Nat.mul_assoc]
  refine Nat.mul_le_mul_left n (Nat.le_mul_of_pos_right _ ?_)
  exact Nat.mul_pos (Nat.pow_pos (by decide)) (two k)

namespace Register

theorem multiplyFives_integer (n k : Nat) :
    multiplyFives k ⟨n * 2 ^ k, -(k : Int)⟩ = ⟨n, 0⟩ := by
  have halved := multiplyFives_halves k 0 n (-(k : Int))
  rwa [Nat.add_zero, Int.add_left_neg] at halved

/-- A short number that is no integer is kept with all its places. -/
theorem multiplyFives_short {b : Nat} (hb : b ≠ 0) (hc : c < 2 ^ 52)
    (h : b * 10 ^ j = c * 2 ^ k) :
    2 ^ k ∣ b ∨ ∃ n i, i + 1 ≤ j ∧ n ≤ c ∧
      multiplyFives k ⟨b, -(k : Int)⟩ = ⟨n, -(i + 1 : Nat)⟩ ∧ n * 2 ^ k = b * 10 ^ (i + 1) := by
  obtain ⟨t, n, odd, rfl⟩ := Nat.exists_eq_two_pow_mul_odd hb
  rw [Nat.odd_iff] at odd
  rw [Nat.mul_comm (2 ^ t)] at *
  by_cases whole : k ≤ t
  · exact .inl (Nat.dvd_trans (Nat.pow_dvd_pow 2 whole) (Nat.dvd_mul_left ..))
  · obtain ⟨i, rfl⟩ : ∃ i, k = t + (i + 1) := ⟨k - t - 1, by omega⟩
    have fraction : n * 10 ^ j = c * 2 ^ (i + 1) := by
      rw [Nat.pow_add, Nat.mul_right_comm, Nat.mul_left_comm, Nat.mul_comm (2 ^ t)] at h
      exact Nat.eq_of_mul_eq_mul_right (Nat.two_pow_pos t) h
    obtain ⟨le, few⟩ := places_of_odd odd fraction
    refine .inr ⟨n * 5 ^ (i + 1), i, le, few, ?_, ?_⟩
    · rw [multiplyFives_halves, multiplyFives_odd _ odd (by omega)]
      congr 1
      omega
    · rw [Nat.pow_add 2, show 10 ^ (i + 1) = 5 ^ (i + 1) * 2 ^ (i + 1) from Nat.mul_pow 5 2 (i + 1)]
      ac_rfl

end Register

/-- A short double with powers of two to trade. -/
theorem exact_of_places {b k : Nat} (hb : b ≠ 0) (hk : k ≤ 1074) (small : b < 2 ^ 53)
    (short : one ∣ b * 2 ^ k ∨ ∃ c j, c < 2 ^ 52 ∧ j ≤ 28 ∧ b * 2 ^ k * 10 ^ j = c * one)
    (h : (Register.multiplyFives (1074 - k) ⟨b, -(1074 - k : Nat)⟩).toDecimal? s = some d) :
    d.coefficient * 10 ^ (28 - d.scale) * one = b * 2 ^ k * 10 ^ 28 := by
  have split : one = 2 ^ k * 2 ^ (1074 - k) := by
    rw [one, ← Nat.pow_add, Nat.add_sub_cancel' hk]
  have two : 0 < 2 ^ k := Nat.two_pow_pos k
  generalize 1074 - k = l at *
  have cases : 2 ^ l ∣ b ∨ ∃ n i, i + 1 ≤ 28 ∧ n < 2 ^ 52 ∧
      Register.multiplyFives l ⟨b, -(l : Int)⟩ = ⟨n, -(i + 1 : Nat)⟩ ∧
        n * 2 ^ l = b * 10 ^ (i + 1) := by
    rcases short with integer | ⟨c, j, hc, hj, eq⟩
    · rw [split, Nat.mul_comm b] at integer
      exact .inl (Nat.dvd_of_mul_dvd_mul_left two integer)
    · rw [split, Nat.mul_right_comm, Nat.mul_left_comm, Nat.mul_comm] at eq
      have eq := Nat.eq_of_mul_eq_mul_left two eq
      rcases Register.multiplyFives_short hb hc eq with integer | ⟨n, i, hi, hn, register⟩
      · exact .inl integer
      · exact .inr ⟨n, i, by omega, by omega, register⟩
  rcases cases with ⟨n, rfl⟩ | ⟨n, i, hi, hn, register, eq⟩
  · have fits : n < 2 ^ 96 := by
      have := Nat.le_mul_of_pos_left n (Nat.two_pow_pos l)
      omega
    rw [Nat.mul_comm, Register.multiplyFives_integer] at h
    obtain ⟨d', hd', exact⟩ := Register.toDecimal?_integer s fits
    obtain rfl := Option.some.inj (hd'.symm.trans h)
    rw [exact, split]
    ac_rfl
  · rw [register] at h
    obtain ⟨d', hd', exact⟩ := Register.exists_toDecimal?_short s hn hi
    obtain rfl := Option.some.inj (hd'.symm.trans h)
    have ten : 10 ^ 28 = 10 ^ (i + 1) * 10 ^ (28 - (i + 1)) := by
      rw [← Nat.pow_add, Nat.add_sub_cancel' hi]
    calc d'.coefficient * 10 ^ (28 - d'.scale) * one
        = n * 2 ^ l * 2 ^ k * 10 ^ (28 - (i + 1)) := by
          rw [exact, split]
          ac_rfl
      _ = b * 2 ^ k * 10 ^ 28 := by
          rw [eq, ten]
          ac_rfl

/-- A double that is a whole multiple of its mantissa. -/
theorem exact_of_doublings {b l : Nat} (small : b < 2 ^ 53) (hl : l ≤ 43)
    (h : (Register.divideFives? l ⟨b, l⟩).bind (·.toDecimal? s) = some d) :
    d.coefficient * 10 ^ (28 - d.scale) * one = b * 2 ^ (l + 1074) * 10 ^ 28 := by
  have power : 2 ^ l ≤ 2 ^ 43 := Nat.pow_le_pow_right (by decide) hl
  have fits : b * 2 ^ l < 2 ^ 96 :=
    Nat.lt_of_le_of_lt (Nat.mul_le_mul (Nat.le_of_lt_succ small) power) (by decide)
  have doubled : Register.divideFives? (l + 0) ⟨b, l⟩ =
      Register.divideFives? 0 ⟨b * 2 ^ l, (l : Int) - l⟩ := Register.divideFives?_add fits
  rw [Nat.add_zero, Int.sub_self] at doubled
  rw [doubled] at h
  obtain ⟨d', hd', exact⟩ := Register.toDecimal?_integer s fits
  obtain rfl := Option.some.inj (hd'.symm.trans h)
  have units : 2 ^ (l + 1074) = 2 ^ l * one := by
    unfold one
    exact Nat.pow_add 2 l 1074
  rw [exact, units, ← Nat.mul_assoc, Nat.mul_right_comm]

theorem sameSize_of_short (h : ofBinary? x = some d) (short : x.Short) :
    SameSize d x.magnitude := by
  have below : x.magnitude < edge := by
    rw [← Nat.not_le]
    intro out
    simp [ofBinary?_eq_none out] at h
  have last : edge = 1119 * 2 ^ 52 := rfl
  have finite : x.isFinite = true := by
    have top : edge < topMagnitude := by decide
    simp only [isFinite, decide_eq_true_iff]
    omega
  have small : mantissa x.magnitude < 2 ^ 53 := by
    unfold mantissa
    split <;> omega
  rw [Short, Binary64.natAbs_units] at short
  rw [SameSize]
  rw [ofBinary?_eq, finite] at h
  simp only [Bool.not_true, Bool.false_eq_true, if_false] at h
  rw [unitsOf_eq] at *
  have exponent : x.magnitude / 2 ^ 52 - 1 ≤ 1074 + 43 := by omega
  generalize x.magnitude / 2 ^ 52 - 1 = k at *
  generalize mantissa x.magnitude = b at *
  split at h
  · next zero =>
    obtain ⟨-, coefficient, -⟩ := make?_eq_some_iff.1 h
    simp [coefficient, zero]
  · next pos =>
    split at h
    · next le =>
      have traded : ((k : Int) - 1074) = -(1074 - k : Nat) := by omega
      rw [traded, Int.neg_neg, Int.toNat_natCast] at h
      exact exact_of_places pos (by omega) small short h
    · next gt =>
      obtain ⟨l, rfl⟩ : ∃ l, k = l + 1074 := ⟨k - 1074, by omega⟩
      have exponent : ((l + 1074 : Nat) : Int) - 1074 = l := by omega
      rw [exponent, Int.toNat_natCast] at h
      exact exact_of_doublings small (by omega) h

/-- The decimal of a double is the number itself just if the double is short. -/
theorem ofBinary?_exact_iff (h : ofBinary? x = some d) :
    d.units * one = x.units * 10 ^ 28 ↔ x.Short := by
  rw [units_mul_eq_iff (negative_of_ofBinary? h).1]
  exact ⟨short_of_sameSize h, sameSize_of_short h⟩

end Decimal

end DataGrid
