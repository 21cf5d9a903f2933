import DataGrid.Number.Decimal.Binary
import DataGrid.Proofs.Number.Magnitude

/-!
# Where decimals end

An integer has a decimal if it has 96 bits at most, and a double has one if it lies below 2^96;
decimals with places are smaller by a power of ten than those without. So the doubles of decimals
go up to 2^96, and that one comes of the last integers only.
-/

namespace DataGrid

open Binary64

namespace Decimal

/-! ## The double of a decimal -/

section Scaled

variable {c power : Nat}

/-- The double of a power of ten from ten up to the largest scale. -/
theorem below_power (least : 10 ≤ power) (most : power ≤ 10 ^ 28) :
    (ofInt power).Below (ofInt power).magnitude ∧ powerMagnitude 0 ≤ (ofInt power).magnitude ∧
      (ofInt power).magnitude ≤ powerMagnitude 94 := by
  refine ⟨below_self power, ?_, (below_ofInt ?_).le⟩
  · have le : powerMagnitude 0 ≤ nearest power 1 := by
      refine le_nearest Nat.one_pos ?_
      rw [unitsOf_powerMagnitude, Nat.mul_one]
      exact Nat.mul_le_mul_right one (by omega)
    have : powerMagnitude 0 ≤ topMagnitude := by decide
    rw [magnitude_ofInt, Int.natAbs_natCast]
    omega
  · rw [unitsOf_powerMagnitude]
    exact Nat.mul_le_mul_right one (by omega)

theorem below_whole (hc : c < 2 ^ 96) (least : 10 ≤ power) :
    (ofInt (c / power : Nat)).Below (powerMagnitude 93) := by
  refine below_ofInt ?_
  rw [unitsOf_powerMagnitude]
  refine Nat.mul_le_mul_right one ?_
  have : c / power ≤ c / 10 := Nat.div_le_div_left least (by decide)
  omega

theorem below_fraction (least : 10 ≤ power) (most : power ≤ 10 ^ 28) :
    (ofInt (c % power : Nat) / ofInt power).Below (powerMagnitude 0) := by
  obtain ⟨tens, ge, le⟩ := below_power least most
  have top : powerMagnitude 94 < topMagnitude := by decide
  have pos : 0 < powerMagnitude 0 := by decide
  have rest : (ofInt (c % power : Nat)).Below (ofInt power).magnitude := by
    refine ⟨(below_self _).positive, ?_⟩
    have mono : nearest (c % power) 1 ≤ nearest power 1 :=
      nearest_mono Nat.one_pos Nat.one_pos (by
        have := Nat.mod_lt c (by omega : 0 < power)
        omega)
    rw [magnitude_ofInt, magnitude_ofInt, Int.natAbs_natCast, Int.natAbs_natCast]
    omega
  refine rest.div tens (by omega) (by omega) (by omega) (Nat.le_of_eq ?_)
  rw [unitsOf_powerMagnitude, Nat.pow_zero, Nat.one_mul, Nat.mul_comm]

/-- The power is rounded itself, so what is multiplied and divided by it is measured in what it
is rounded to. -/
theorem below_size {x : Binary64} (hx : x.Below (powerMagnitude 94)) (least : 10 ≤ power)
    (most : power ≤ 10 ^ 28) : ((x * ofInt power).round / ofInt power).Below (powerMagnitude 95) := by
  obtain ⟨tens, ge, le⟩ := below_power least most
  have top : powerMagnitude 94 + 95 * 2 ^ 52 < topMagnitude := by decide
  have short : powerMagnitude 94 < topMagnitude := by decide
  have normal : 2 ^ 52 ≤ powerMagnitude 0 := by decide
  generalize ofInt power = t at *
  have large : 2 ^ 52 ≤ t.magnitude := by omega
  have ones : one ≤ unitsOf t.magnitude := by
    have := unitsOf_le_unitsOf.2 ge
    rwa [unitsOf_powerMagnitude, Nat.pow_zero, Nat.one_mul] at this
  have product : (x * t).Below (t.magnitude + 94 * 2 ^ 52) := by
    refine hx.mul tens short (by omega) (Nat.le_of_eq ?_)
    rw [unitsOf_powerMagnitude, unitsOf_add large, Nat.mul_right_comm]
  have rounded : (x * t).round.Below (t.magnitude + 95 * 2 ^ 52) := by
    refine product.round (by omega) ?_
    rw [unitsOf_add large, unitsOf_add large]
    omega
  refine rounded.div tens (by omega) (by omega) (by omega) (Nat.le_of_eq ?_)
  rw [unitsOf_add large, unitsOf_powerMagnitude, Nat.mul_right_comm]

end Scaled

/-- The double of a decimal with places stays below `2 ^ 96`. -/
theorem natAbs_place_toBinary {x : Decimal} (h : x.scale ≠ 0) : x.toBinary.place.natAbs < edge := by
  have least : 10 ≤ 10 ^ x.scale := Nat.le_self_pow h 10
  have most : 10 ^ x.scale ≤ 10 ^ 28 := Nat.pow_le_pow_right (by decide) x.scale_le
  have whole := below_whole x.coefficient_lt least
  have fraction := below_fraction (c := x.coefficient) least most
  have sum : (ofInt (x.coefficient / 10 ^ x.scale : Nat) +
      ofInt (x.coefficient % 10 ^ x.scale : Nat) / ofInt (10 ^ x.scale : Nat)).Below
        (powerMagnitude 94) := by
    refine whole.add fraction (by decide) (by decide) ?_
    rw [unitsOf_powerMagnitude, unitsOf_powerMagnitude, unitsOf_powerMagnitude, ← Nat.add_mul]
    exact Nat.mul_le_mul_right one (by decide)
  have size := below_size sum least most
  have signed {y : Binary64} (hy : y.Below (powerMagnitude 95)) :
      (if x.negative = true then -y else y).place.natAbs < edge := by
    have lt : powerMagnitude 95 < edge := by decide
    have le := hy.le
    split
    · rw [place_neg, hy.place]
      omega
    · rw [hy.place]
      omega
  rw [toBinary, if_neg h]
  dsimp only
  refine signed ?_
  split
  · exact ⟨whole.positive, Nat.le_trans whole.le (by decide)⟩
  · exact size

/-! ## The decimal of a double -/

theorem natAbs_signed (x : Decimal) : x.signed.natAbs = x.coefficient := by
  unfold signed
  split <;> omega

theorem natAbs_units (x : Decimal) : x.units.natAbs = x.coefficient * 10 ^ (28 - x.scale) := by
  rw [units, Int.natAbs_mul, natAbs_signed, Int.natAbs_pow]
  rfl

/-- The largest number of units of a decimal that comes of a double: the last double before
`2 ^ 96` is a decimal itself. -/
def doubleLimit : Nat := (2 ^ 96 - 2 ^ 43) * 10 ^ 28

/-- A decimal with places is short of the end by a power of ten. -/
theorem natAbs_units_of_scale {x : Decimal} (h : x.scale ≠ 0) : x.units.natAbs ≤ doubleLimit := by
  have power : 10 ^ (28 - x.scale) ≤ 10 ^ 27 := Nat.pow_le_pow_right (by decide) (by omega)
  rw [natAbs_units]
  calc x.coefficient * 10 ^ (28 - x.scale) ≤ 2 ^ 96 * 10 ^ 27 :=
        Nat.mul_le_mul (Nat.le_of_lt x.coefficient_lt) power
    _ ≤ doubleLimit := by decide

namespace Register

theorem multiplyFives_spec (k : Nat) {r : Register} (h : r.bits < 2 ^ 96) :
    (r.multiplyFives k).bits < 2 ^ 96 ∧ (r.multiplyFives k).tens ≤ r.tens + k ∧
      ((r.multiplyFives k).tens = r.tens + k → (r.multiplyFives k).bits ≤ r.bits) := by
  induction k generalizing r with
  | zero => exact ⟨h, by simp [multiplyFives], fun _ => Nat.le_refl _⟩
  | succ k ih =>
    obtain ⟨bits, tens⟩ := r
    have halved := @ih ⟨bits / 2, tens + 1⟩ (by dsimp only at *; omega)
    unfold multiplyFives
    dsimp only at *
    split
    · obtain ⟨fits, le, same⟩ := halved
      exact ⟨fits, by omega, fun e => Nat.le_trans (same (by omega)) (Nat.div_le_self _ _)⟩
    · split
      · next room =>
        obtain ⟨fits, le, -⟩ := @ih ⟨bits * 5, tens⟩ room
        dsimp only at *
        exact ⟨fits, by omega, fun e => by omega⟩
      · obtain ⟨fits, le, same⟩ := halved
        exact ⟨fits, by omega, fun e => Nat.le_trans (same (by omega)) (Nat.div_le_self _ _)⟩

/-- While there is room, powers of five are traded by doubling. -/
theorem divideFives?_add {j k bits : Nat} {tens : Int} (h : bits * 2 ^ j < 2 ^ 96) :
    divideFives? (j + k) ⟨bits, tens⟩ = divideFives? k ⟨bits * 2 ^ j, tens - j⟩ := by
  induction j generalizing bits tens with
  | zero => simp
  | succ j ih =>
    have pos := Nat.two_pow_pos j
    have more : bits * 2 * 2 ^ j < 2 ^ 96 := by
      rwa [Nat.mul_assoc, ← Nat.pow_succ']
    have room : bits < 2 ^ 95 := by
      have : bits * 2 * 1 ≤ bits * 2 * 2 ^ j := Nat.mul_le_mul_left _ pos
      omega
    rw [Nat.add_right_comm, divideFives?, if_pos room, ih more, Nat.mul_assoc, ← Nat.pow_succ']
    congr 2
    dsimp only
    omega

theorem dropPlace_le (n : Nat) : dropPlace n ≤ n ∧ dropPlace n ≤ n / 10 + 1 := by
  unfold dropPlace
  split <;> omega

theorem dropPlaces_spec (k n : Nat) :
    (dropPlaces k n).1 ≤ n ∧ ((dropPlaces k n).2 = false → (dropPlaces k n).1 = 0) := by
  induction k generalizing n with
  | zero => simp [dropPlaces]
  | succ k ih =>
    unfold dropPlaces
    split
    · simp
    · exact ⟨Nat.le_trans (ih _).1 (dropPlace_le n).1, (ih _).2⟩

theorem trimPlaces_spec (k n : Nat) :
    (trimPlaces k n).1 ≤ n ∧ (trimPlaces k n).2 ≤ k ∧
      ((trimPlaces k n).2 < k → (trimPlaces k n).1 ≤ n / 10 + 1) := by
  induction k generalizing n with
  | zero => simp [trimPlaces]
  | succ k ih =>
    unfold trimPlaces
    have drop := dropPlace_le n
    have rest := ih (dropPlace n)
    split
    · exact ⟨by omega, by omega, fun _ => by omega⟩
    · simp

/-- A register with places is a decimal. -/
theorem toDecimal?_of_places {s : Bool} {r : Register} (h : r.bits < 2 ^ 96) (neg : r.tens < 0) :
    ∃ d, r.toDecimal? s = some d ∧ d.units.natAbs ≤ doubleLimit := by
  obtain ⟨le, gone⟩ := dropPlaces_spec ((-r.tens).toNat - 28) r.bits
  unfold toDecimal?
  rw [if_neg (by omega)]
  dsimp only
  generalize hp : (-r.tens).toNat = places at *
  generalize dropPlaces (places - 28) r.bits = dropped at *
  obtain ⟨n, left⟩ := dropped
  dsimp only at *
  cases left with
  | false =>
    have none := gone rfl
    subst none
    exact ⟨_, rfl, by simp [natAbs_units]⟩
  | true =>
    obtain ⟨le', short, trimmed⟩ := trimPlaces_spec (min places 28) n
    generalize trimPlaces (min places 28) n = kept at *
    obtain ⟨n', left⟩ := kept
    have whole := stripZeros_mul n' left
    have removed_le := stripZeros_le n' left
    have c_le := stripZeros_fst_le n' left
    generalize stripZeros n' left = stripped at *
    obtain ⟨c, removed⟩ := stripped
    dsimp only at *
    have room : c < 2 ^ 96 ∧ left - removed ≤ 28 := by omega
    refine ⟨⟨s, c, left - removed, room.1, room.2⟩, by simp [make?, room], ?_⟩
    by_cases all : left - removed = 0
    · -- A place was dropped or a zero was removed.
      have small : c ≤ 2 ^ 96 - 2 ^ 43 := by
        by_cases dropped : left = 0
        · omega
        · have ten : 10 ^ 1 ≤ 10 ^ removed := Nat.pow_le_pow_right (by decide) (by omega)
          have : c * 10 ^ 1 ≤ c * 10 ^ removed := Nat.mul_le_mul_left c ten
          omega
      rw [natAbs_units]
      dsimp only
      rw [all]
      exact Nat.mul_le_mul_right _ small
    · exact natAbs_units_of_scale all

/-- A register without a power of ten is a decimal as it is. -/
theorem toDecimal?_of_integer {s : Bool} {bits : Nat} (h : bits ≤ 2 ^ 96 - 2 ^ 43) :
    ∃ d, toDecimal? s ⟨bits, 0⟩ = some d ∧ d.units.natAbs ≤ doubleLimit := by
  have room : bits < 2 ^ 96 ∧ 0 ≤ 28 := by omega
  refine ⟨⟨s, bits, 0, room.1, room.2⟩, by simp [toDecimal?, clearTens?, make?, room], ?_⟩
  rw [natAbs_units]
  exact Nat.mul_le_mul_right _ h

end Register

/-- A double from `2 ^ 96` on has no decimal. -/
theorem ofBinary?_eq_none {x : Binary64} (h : edge ≤ x.magnitude) : ofBinary? x = none := by
  have last : edge = 1119 * 2 ^ 52 := rfl
  unfold ofBinary?
  split
  · rfl
  · generalize x.magnitude = m at h
    have normal : ¬ m < 2 ^ 52 := by omega
    obtain ⟨k, hk⟩ : ∃ k, m / 2 ^ 52 - 1 = 1074 + (43 + (k + 1)) := ⟨m / 2 ^ 52 - 1119, by omega⟩
    have exponent : ((m / 2 ^ 52 - 1 : Nat) : Int) - 1074 = 44 + k := by omega
    have digits : m % 2 ^ 52 + 2 ^ 52 ≠ 0 := by omega
    have count : ((44 : Int) + k).toNat = 43 + (k + 1) := by omega
    have full : ¬ (m % 2 ^ 52 + 2 ^ 52) * 2 ^ 43 < 2 ^ 95 := by omega
    simp only [if_neg normal, exponent, if_neg digits, if_neg (by omega : ¬ (44 : Int) + k ≤ 0), count]
    rw [Register.divideFives?_add (by omega), Register.divideFives?, if_neg full,
      if_pos (by dsimp only; omega)]
    rfl

/-- A double below `2 ^ 96` has one. -/
theorem exists_ofBinary? {x : Binary64} (h : x.magnitude < edge) :
    ∃ d, ofBinary? x = some d ∧ d.units.natAbs ≤ doubleLimit := by
  have last : edge = 1119 * 2 ^ 52 := rfl
  have top : edge < topMagnitude := by decide
  have finite : x.isFinite = true := by
    simp only [isFinite, decide_eq_true_iff]
    omega
  unfold ofBinary?
  simp only [finite, Bool.not_true, Bool.false_eq_true, if_false]
  generalize x.magnitude = m at h
  generalize hd : (if m < 2 ^ 52 then m else m % 2 ^ 52 + 2 ^ 52) = digits
  have digits_lt : digits < 2 ^ 53 := by
    rw [← hd]
    split <;> omega
  split
  · exact ⟨_, rfl, by simp [natAbs_units]⟩
  · generalize he : ((m / 2 ^ 52 - 1 : Nat) : Int) - 1074 = e
    have e_le : e ≤ 43 := by omega
    split
    · obtain ⟨fits, tens_le, same⟩ :=
        Register.multiplyFives_spec (-e).toNat (r := ⟨digits, e⟩) (by dsimp only; omega)
      generalize (Register.multiplyFives (-e).toNat ⟨digits, e⟩) = r at *
      dsimp only [Option.bind_some] at *
      by_cases places : r.tens < 0
      · exact Register.toDecimal?_of_places fits places
      · have zero : r.tens = 0 := by omega
        have small := same (by omega)
        obtain ⟨bits, tens⟩ := r
        subst zero
        exact Register.toDecimal?_of_integer (by dsimp only at *; omega)
    · have power : 2 ^ e.toNat ≤ 2 ^ 43 := Nat.pow_le_pow_right (by decide) (by omega)
      have le : digits * 2 ^ e.toNat ≤ (2 ^ 53 - 1) * 2 ^ 43 := Nat.mul_le_mul (by omega) power
      have doubled : Register.divideFives? (e.toNat + 0) ⟨digits, e⟩ =
          Register.divideFives? 0 ⟨digits * 2 ^ e.toNat, e - e.toNat⟩ :=
        Register.divideFives?_add (by omega)
      rw [Nat.add_zero, show e - e.toNat = 0 by omega] at doubled
      rw [doubled]
      exact Register.toDecimal?_of_integer (by omega)

/-! ## Integers -/

theorem ofInt?_eq_none {n : Int} (h : 2 ^ 96 ≤ n.natAbs) : ofInt? n = none := by
  simp only [ofInt?, ofParts?, make?]
  rw [dif_neg (by omega)]

/-- An integer of 96 bits is a decimal without places. -/
theorem exists_ofInt? {n : Int} (h : n.natAbs < 2 ^ 96) :
    ∃ d, ofInt? n = some d ∧ d.units = n * 10 ^ 28 := by
  have room : n.natAbs < 2 ^ 96 ∧ 0 ≤ 28 := ⟨h, by omega⟩
  refine ⟨⟨n < 0 && n.natAbs != 0, n.natAbs, 0, room.1, room.2⟩,
    by simp [ofInt?, ofParts?, make?, room], ?_⟩
  have sign : signed ⟨n < 0 && n.natAbs != 0, n.natAbs, 0, room.1, room.2⟩ = n := by
    simp only [signed, Bool.and_eq_true, decide_eq_true_eq, bne_iff_ne]
    split <;> omega
  rw [units, sign]
  rfl

end Decimal

end DataGrid
