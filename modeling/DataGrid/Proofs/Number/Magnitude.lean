import DataGrid.Proofs.Number.Nearest

/-!
# Doubles by their magnitude

A double that is no NaN has its place in the numeric order by its sign and magnitude. Here are
the places of integers, which do not pass one another, and upper bounds for what the arithmetic
of doubles makes of numbers that are not negative.
-/

namespace DataGrid.Binary64

/-! ## The place of a double -/

/-- The magnitude with the sign. -/
def place (x : Binary64) : Int := if x.negative then -(x.magnitude : Int) else x.magnitude

theorem units_le_units {x y : Binary64} : x.units ≤ y.units ↔ x.place ≤ y.place := by
  have le := @unitsOf_le_unitsOf x.magnitude y.magnitude
  have ge := @unitsOf_le_unitsOf y.magnitude x.magnitude
  have zero {m : Nat} : unitsOf m ≤ 0 ↔ m ≤ 0 := unitsOf_le_unitsOf (n := 0)
  have hx := @zero x.magnitude
  have hy := @zero y.magnitude
  unfold units place
  split <;> split <;> omega

theorem eq_pack (x : Binary64) : x = pack x.negative x.magnitude := by
  obtain ⟨bits⟩ := x
  have h := bits_toNat ⟨bits⟩
  unfold pack
  rw [← h]
  simp

/-- The magnitude of `2 ^ j`. -/
def powerMagnitude (j : Nat) : Nat := (1023 + j) * 2 ^ 52

theorem unitsOf_add {m : Nat} (h : 2 ^ 52 ≤ m) (j : Nat) :
    unitsOf (m + j * 2 ^ 52) = 2 ^ j * unitsOf m := by
  have large : ¬ m + j * 2 ^ 52 < 2 ^ 52 := by omega
  have exponent : (m + j * 2 ^ 52) / 2 ^ 52 - 1 = m / 2 ^ 52 - 1 + j := by omega
  rw [unitsOf, unitsOf, if_neg large, if_neg (Nat.not_lt.2 h), exponent, Nat.add_mul_mod_self_right,
    Nat.pow_add, Nat.mul_left_comm]
  ac_rfl

theorem unitsOf_powerMagnitude (j : Nat) : unitsOf (powerMagnitude j) = 2 ^ j * one := by
  have start : unitsOf (1023 * 2 ^ 52) = one := by decide +kernel
  rw [powerMagnitude, Nat.add_mul, unitsOf_add (by decide), start]

/-! ## Rounded ratios -/

theorem topMagnitude_lt : topMagnitude < 2 ^ 63 := by decide

@[simp] theorem magnitude_ofRatio (s : Bool) (n d : Nat) :
    (ofRatio s n d).magnitude = min (nearest n d) topMagnitude := by
  have := topMagnitude_lt
  rw [ofRatio_eq, magnitude_pack _ _ (by omega)]

@[simp] theorem negative_ofRatio (s : Bool) (n d : Nat) : (ofRatio s n d).negative = s := by
  have := topMagnitude_lt
  rw [ofRatio_eq, negative_pack _ _ (by omega)]

@[simp] theorem isNaN_ofRatio (s : Bool) (n d : Nat) : (ofRatio s n d).isNaN = false := by
  simp only [isNaN, magnitude_ofRatio, decide_eq_false_iff_not]
  omega

/-! ## Integers -/

@[simp] theorem negative_ofInt (n : Int) : (ofInt n).negative = decide (n < 0) :=
  negative_ofRatio _ _ _

@[simp] theorem magnitude_ofInt (n : Int) :
    (ofInt n).magnitude = min (nearest n.natAbs 1) topMagnitude := magnitude_ofRatio _ _ _

theorem place_ofInt (n : Int) : (ofInt n).place =
    if n < 0 then -((min (nearest n.natAbs 1) topMagnitude : Nat) : Int)
    else (min (nearest n.natAbs 1) topMagnitude : Nat) := by
  simp [place]

theorem place_ofInt_mono {m n : Int} (h : m ≤ n) : (ofInt m).place ≤ (ofInt n).place := by
  have up (le : m.natAbs ≤ n.natAbs) : nearest m.natAbs 1 ≤ nearest n.natAbs 1 :=
    nearest_mono Nat.one_pos Nat.one_pos (by omega)
  have down (le : n.natAbs ≤ m.natAbs) : nearest n.natAbs 1 ≤ nearest m.natAbs 1 :=
    nearest_mono Nat.one_pos Nat.one_pos (by omega)
  rw [place_ofInt, place_ofInt]
  split <;> split <;> omega

/-- The magnitude of `2 ^ 96`, where the decimals end. -/
def edge : Nat := powerMagnitude 96

theorem edge_le_place_ofInt {n : Int} (h : 2 ^ 96 ≤ n) : (edge : Int) ≤ (ofInt n).place := by
  have le : edge ≤ nearest n.natAbs 1 := by
    refine le_nearest Nat.one_pos ?_
    rw [edge, unitsOf_powerMagnitude, Nat.mul_one]
    exact Nat.mul_le_mul_right one (by omega)
  have top : edge ≤ topMagnitude := by decide
  rw [place_ofInt, if_neg (by omega)]
  omega

theorem place_ofInt_le_edge {n : Int} (h : n ≤ 2 ^ 96) : (ofInt n).place ≤ edge := by
  refine Int.le_trans (place_ofInt_mono h) ?_
  have le : nearest (2 ^ 96) 1 ≤ edge := by
    refine nearest_le Nat.one_pos ?_
    rw [edge, unitsOf_powerMagnitude]
    omega
  rw [place_ofInt, if_neg (by omega)]
  have size : ((2 : Int) ^ 96).natAbs = 2 ^ 96 := by decide
  rw [size]
  omega

/-- The integers up to the last double before `2 ^ 96` are rounded to that or less. -/
theorem place_ofInt_lt_edge {n : Int} (h : n ≤ 2 ^ 96 - 2 ^ 43) : (ofInt n).place < edge := by
  refine Int.lt_of_le_of_lt (place_ofInt_mono h) ?_
  have last : unitsOf (edge - 1) = (2 ^ 96 - 2 ^ 43) * one := by decide +kernel
  have le : nearest (2 ^ 96 - 2 ^ 43) 1 ≤ edge - 1 := by
    refine nearest_le Nat.one_pos ?_
    rw [last]
    omega
  have pos : 0 < edge := by decide
  rw [place_ofInt, if_neg (by omega)]
  have size : ((2 : Int) ^ 96 - 2 ^ 43).natAbs = 2 ^ 96 - 2 ^ 43 := by decide
  rw [size]
  omega

theorem place_ofInt_neg (n : Int) : (ofInt (-n)).place = -(ofInt n).place := by
  rw [place_ofInt, place_ofInt, Int.natAbs_neg]
  rcases Int.lt_trichotomy n 0 with neg | rfl | pos
  · rw [if_pos neg, if_neg (by omega), Int.neg_neg]
  · have zero : nearest 0 1 = 0 := Nat.le_zero.1 (nearest_le Nat.one_pos (by simp))
    rw [if_neg (Int.lt_irrefl 0), Int.natAbs_zero, zero]
    rfl
  · rw [if_neg (by omega : ¬ n < 0), if_pos (by omega)]

/-! ## Upper bounds -/

/-- A double that is not negative and not above a magnitude. -/
structure Below (x : Binary64) (m : Nat) : Prop where
  positive : x.negative = false
  le : x.magnitude ≤ m

variable {x y : Binary64} {m n l : Nat}

theorem below_ofRatio {a b : Nat} (hb : 0 < b) (h : a * one ≤ unitsOf m * b) :
    (ofRatio false a b).Below m := by
  have := nearest_le hb h
  exact ⟨negative_ofRatio _ _ _, by rw [magnitude_ofRatio]; omega⟩

theorem below_ofInt {a : Nat} (h : a * one ≤ unitsOf m) : (ofInt a).Below m := by
  have sign : decide ((a : Int) < 0) = false := by simp
  rw [ofInt, sign]
  exact below_ofRatio Nat.one_pos (by simpa using h)

theorem below_self (n : Nat) : (ofInt n).Below (ofInt n).magnitude := by
  have sign : ¬ (n : Int) < 0 := by omega
  exact ⟨by rw [negative_ofInt, decide_eq_false sign], Nat.le_refl _⟩

namespace Below

theorem place (h : x.Below m) : x.place = x.magnitude := by simp [Binary64.place, h.positive]

theorem units (h : x.Below m) : x.units = unitsOf x.magnitude := by simp [Binary64.units, h.positive]

theorem natAbs_units (h : x.Below m) : x.units.natAbs ≤ unitsOf m := by
  rw [h.units]
  exact unitsOf_le_unitsOf.2 h.le

theorem isNaN (h : x.Below m) (hm : m < topMagnitude) : x.isNaN = false := by
  have := h.le
  simp only [Binary64.isNaN, decide_eq_false_iff_not]
  omega

theorem isInfinite (h : x.Below m) (hm : m < topMagnitude) : x.isInfinite = false := by
  have := h.le
  simp only [Binary64.isInfinite, decide_eq_false_iff_not]
  omega

theorem isFinite (h : x.Below m) (hm : m < topMagnitude) : x.isFinite = true := by
  have := h.le
  simp only [Binary64.isFinite, decide_eq_true_iff]
  omega

theorem add (hx : x.Below m) (hy : y.Below n) (hm : m < topMagnitude) (hn : n < topMagnitude)
    (h : unitsOf m + unitsOf n ≤ unitsOf l) : (x + y).Below l := by
  change (Binary64.add x y).Below l
  have ux := hx.natAbs_units
  have uy := hy.natAbs_units
  have sum : ¬ x.units + y.units < 0 := by rw [hx.units, hy.units]; omega
  simp only [Binary64.add, hx.isNaN hm, hy.isNaN hn, hx.isInfinite hm, hy.isInfinite hn,
    hx.positive, hy.positive, Bool.or_self, Bool.false_eq_true, if_false, Bool.and_self]
  split
  · exact ⟨negative_pack _ _ (by decide), by rw [zero, magnitude_pack _ _ (by decide)]; omega⟩
  · simp only [sum, decide_false]
    exact below_ofRatio one_pos (Nat.mul_le_mul_right one (by omega))

theorem mul (hx : x.Below m) (hy : y.Below n) (hm : m < topMagnitude) (hn : n < topMagnitude)
    (h : unitsOf m * unitsOf n ≤ unitsOf l * one) : (x * y).Below l := by
  change (Binary64.mul x y).Below l
  simp only [Binary64.mul, hx.isNaN hm, hy.isNaN hn, hx.isInfinite hm, hy.isInfinite hn,
    hx.positive, hy.positive, Bool.or_self, Bool.false_eq_true, if_false, bne_self_eq_false]
  refine below_ofRatio (Nat.mul_pos one_pos one_pos) ?_
  rw [← Nat.mul_assoc]
  exact Nat.mul_le_mul_right one
    (Nat.le_trans (Nat.mul_le_mul hx.natAbs_units hy.natAbs_units) h)

theorem round (hx : x.Below m) (hm : m < topMagnitude) (h : unitsOf m + one ≤ unitsOf l) :
    x.round.Below l := by
  have whole : roundHalfUp x.units.natAbs one * one ≤ unitsOf l := by
    have le := hx.natAbs_units
    have pos := one_pos
    have down : roundHalfUp x.units.natAbs one * (2 * one) ≤ 2 * x.units.natAbs + one :=
      Nat.div_mul_le_self _ _
    rw [Nat.mul_left_comm] at down
    omega
  simp only [Binary64.round, hx.isFinite hm, if_true, hx.positive]
  exact below_ofRatio Nat.one_pos (by simpa using whole)

theorem div (hx : x.Below m) (hy : y.Below n) (hm : m < topMagnitude) (hn : n < topMagnitude)
    (pos : 0 < y.magnitude) (h : unitsOf m * one ≤ unitsOf l * unitsOf y.magnitude) :
    (x / y).Below l := by
  change (Binary64.div x y).Below l
  have upos : 0 < unitsOf y.magnitude := by
    rw [← Nat.not_le]
    exact fun le => Nat.not_le.2 pos (unitsOf_le_unitsOf (n := 0) |>.1 le)
  have ne : y.units ≠ 0 := by rw [hy.units]; omega
  simp only [Binary64.div, hx.isNaN hm, hy.isNaN hn, hx.isInfinite hm, hy.isInfinite hn,
    hx.positive, hy.positive, Bool.or_self, Bool.false_eq_true, if_false, bne_self_eq_false, ne]
  rw [hy.units, Int.natAbs_natCast]
  exact below_ofRatio upos (Nat.le_trans (Nat.mul_le_mul_right one hx.natAbs_units) h)

end Below

theorem place_neg (x : Binary64) : (-x).place = -x.place := by
  change (Binary64.neg x).place = -x.place
  have lt := x.magnitude_lt
  simp only [place, neg, negative_pack _ _ lt, magnitude_pack _ _ lt]
  cases x.negative <;> simp

end DataGrid.Binary64
