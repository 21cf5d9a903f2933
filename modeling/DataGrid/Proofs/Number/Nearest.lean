import DataGrid.Number.Binary64

/-!
# The nearest double

Rounding a ratio to the nearest double does not turn ratios around, and leaves alone what is a
double already; so a ratio on one side of a double is rounded to that side of it
(`nearest_le`, `le_nearest`). From that come the bounds of sums, products and quotients of
doubles that are not negative.
-/

namespace DataGrid

theorem roundEven_le_roundEven {n d n' d' : Nat} (hd : 0 < d) (hd' : 0 < d')
    (h : n * d' ≤ n' * d) : roundEven n d ≤ roundEven n' d' := by
  have quotients : n / d ≤ n' / d' := by
    rw [Nat.le_div_iff_mul_le hd']
    refine Nat.le_of_mul_le_mul_right ?_ hd
    calc n / d * d' * d = n / d * d * d' := Nat.mul_right_comm _ _ _
      _ ≤ n * d' := Nat.mul_le_mul_right d' (Nat.div_mul_le_self n d)
      _ ≤ n' * d := h
  rcases Nat.lt_or_eq_of_le quotients with lt | same
  · exact Nat.le_trans (roundEven_le n d) (Nat.le_trans lt (div_le_roundEven n' d'))
  · have rests : n % d * d' ≤ n' % d' * d := by
      have hn := Nat.div_add_mod n d
      have hn' := Nat.div_add_mod n' d'
      rw [← hn, ← hn', ← same, Nat.add_mul, Nat.add_mul, Nat.mul_right_comm d' (n / d) d,
        Nat.mul_comm d' d, Nat.mul_right_comm d (n / d) d'] at h
      exact Nat.le_of_add_le_add_left h
    have half (le : d ≤ 2 * (n % d)) : d' ≤ 2 * (n' % d') := by
      refine Nat.le_of_mul_le_mul_left (c := d) ?_ hd
      calc d * d' ≤ 2 * (n % d) * d' := Nat.mul_le_mul_right d' le
        _ ≤ 2 * (n' % d' * d) := by rw [Nat.mul_assoc]; exact Nat.mul_le_mul_left 2 rests
        _ = d * (2 * (n' % d')) := by rw [← Nat.mul_assoc, Nat.mul_comm]
    have more (lt : d < 2 * (n % d)) : d' < 2 * (n' % d') := by
      refine Nat.lt_of_mul_lt_mul_left (a := d) ?_
      calc d * d' < 2 * (n % d) * d' := Nat.mul_lt_mul_of_pos_right lt hd'
        _ ≤ 2 * (n' % d' * d) := by rw [Nat.mul_assoc]; exact Nat.mul_le_mul_left 2 rests
        _ = d * (2 * (n' % d')) := by rw [← Nat.mul_assoc, Nat.mul_comm]
    unfold roundEven
    dsimp only
    rw [same]
    repeat' split
    all_goals omega

namespace Binary64

theorem one_pos : 0 < one := by
  rw [one]
  apply Nat.pow_pos
  decide

/-- The magnitude of the double nearest to `n / d`, if there were no largest one. -/
def nearest (n d : Nat) : Nat :=
  let k := Nat.log2 (n * one / d) - 52
  k * 2 ^ 52 + roundEven (n * one) (d * 2 ^ k)

theorem ofRatio_eq (s : Bool) (n d : Nat) :
    ofRatio s n d = pack s (min (nearest n d) topMagnitude) := rfl

/-- The scaled ratio fits a mantissa: it lies below 2^53, and from 2^52 on if it is scaled. -/
theorem scaled_lt (n d : Nat) :
    n / (d * 2 ^ (Nat.log2 (n / d) - 52)) < 2 ^ 53 := by
  rw [← Nat.div_div_eq_div_mul, Nat.div_lt_iff_lt_mul (Nat.two_pow_pos _), ← Nat.pow_add]
  by_cases zero : n / d = 0
  · rw [zero]
    exact Nat.two_pow_pos _
  · exact Nat.lt_of_lt_of_le Nat.lt_log2_self (Nat.pow_le_pow_right (by decide) (by omega))

theorem le_scaled {n d : Nat} (h : Nat.log2 (n / d) - 52 ≠ 0) :
    2 ^ 52 ≤ n / (d * 2 ^ (Nat.log2 (n / d) - 52)) := by
  have ne : n / d ≠ 0 := fun e => by simp [e] at h
  rw [← Nat.div_div_eq_div_mul, Nat.le_div_iff_mul_le (Nat.two_pow_pos _), ← Nat.pow_add]
  have := Nat.log2_self_le ne
  rwa [show 52 + (Nat.log2 (n / d) - 52) = Nat.log2 (n / d) by omega]

theorem nearest_mono {n d n' d' : Nat} (hd : 0 < d) (hd' : 0 < d') (h : n * d' ≤ n' * d) :
    nearest n d ≤ nearest n' d' := by
  unfold nearest
  have hp {d : Nat} (k : Nat) (hd : 0 < d) : 0 < d * 2 ^ k := Nat.mul_pos hd (Nat.two_pow_pos k)
  have units : n * one / d ≤ n' * one / d' := by
    rw [Nat.le_div_iff_mul_le hd']
    refine Nat.le_of_mul_le_mul_right ?_ hd
    calc n * one / d * d' * d = n * one / d * d * d' := Nat.mul_right_comm _ _ _
      _ ≤ n * one * d' := Nat.mul_le_mul_right d' (Nat.div_mul_le_self _ _)
      _ = n * d' * one := Nat.mul_right_comm _ _ _
      _ ≤ n' * d * one := Nat.mul_le_mul_right one h
      _ = n' * one * d := Nat.mul_right_comm _ _ _
  have below := scaled_lt (n * one) d
  have above := @le_scaled (n' * one) d'
  have logs : Nat.log2 (n * one / d) ≤ Nat.log2 (n' * one / d') := by
    by_cases zero : n * one / d = 0
    · simp [zero]
    · have zero' : n' * one / d' ≠ 0 := fun e => zero (Nat.le_zero.1 (e ▸ units))
      exact (Nat.le_log2 zero').2 (Nat.le_trans (Nat.log2_self_le zero) units)
  have scales : Nat.log2 (n * one / d) - 52 ≤ Nat.log2 (n' * one / d') - 52 :=
    Nat.sub_le_sub_right logs 52
  generalize Nat.log2 (n * one / d) - 52 = k at *
  generalize Nat.log2 (n' * one / d') - 52 = k' at *
  dsimp only
  rcases Nat.lt_or_eq_of_le scales with lt | rfl
  · have le := roundEven_le (n * one) (d * 2 ^ k)
    have ge := div_le_roundEven (n' * one) (d' * 2 ^ k')
    have := above (by omega)
    omega
  · refine Nat.add_le_add_left (roundEven_le_roundEven (hp k hd) (hp k hd') ?_) _
    rw [Nat.mul_mul_mul_comm, Nat.mul_mul_mul_comm n']
    exact Nat.mul_le_mul_right _ h

/-- A ratio that is a double is not changed. -/
theorem nearest_unitsOf (m : Nat) {d : Nat} (hd : 0 < d) : nearest (unitsOf m * d) (one * d) = m := by
  have exact' : unitsOf m * d * one / (one * d) = unitsOf m := by
    rw [Nat.mul_assoc, Nat.mul_comm d one]
    exact Nat.mul_div_cancel _ (Nat.mul_pos one_pos hd)
  unfold nearest
  rw [exact']
  have reduced (a k : Nat) : roundEven (a * 2 ^ k * d * one) (one * d * 2 ^ k) = a := by
    rw [show a * 2 ^ k * d * one = a * (one * d * 2 ^ k) by
      generalize one = u
      ac_rfl]
    exact roundEven_mul_right a (Nat.mul_pos (Nat.mul_pos one_pos hd) (Nat.two_pow_pos k))
  unfold unitsOf
  split
  · next small =>
    have unscaled : Nat.log2 m - 52 = 0 := by
      by_cases zero : m = 0
      · simp [zero]
      · have := (Nat.log2_lt zero).2 small
        omega
    rw [unscaled]
    simpa using reduced m 0
  · next large =>
    have scale : Nat.log2 ((m % 2 ^ 52 + 2 ^ 52) * 2 ^ (m / 2 ^ 52 - 1)) - 52 = m / 2 ^ 52 - 1 := by
      have pos := Nat.two_pow_pos (m / 2 ^ 52 - 1)
      have log : Nat.log2 ((m % 2 ^ 52 + 2 ^ 52) * 2 ^ (m / 2 ^ 52 - 1)) =
          52 + (m / 2 ^ 52 - 1) := by
        rw [Nat.log2_eq_iff (Nat.ne_of_gt (Nat.mul_pos (by omega) pos)), Nat.pow_add,
          Nat.add_right_comm, Nat.pow_add]
        exact ⟨Nat.mul_le_mul_right _ (by omega), Nat.mul_lt_mul_of_pos_right (by omega) pos⟩
      omega
    rw [scale]
    dsimp only
    rw [reduced]
    omega

/-! ## Bounds -/

theorem nearest_le {n d m : Nat} (hd : 0 < d) (h : n * one ≤ unitsOf m * d) : nearest n d ≤ m := by
  have := nearest_unitsOf m Nat.one_pos
  rw [Nat.mul_one, Nat.mul_one] at this
  rw [← this]
  exact nearest_mono hd one_pos h

theorem le_nearest {n d m : Nat} (hd : 0 < d) (h : unitsOf m * d ≤ n * one) : m ≤ nearest n d := by
  have := nearest_unitsOf m Nat.one_pos
  rw [Nat.mul_one, Nat.mul_one] at this
  rw [← this]
  exact nearest_mono one_pos hd h

theorem unitsOf_le_unitsOf {m n : Nat} : unitsOf m ≤ unitsOf n ↔ m ≤ n := by
  have rounded (m : Nat) : nearest (unitsOf m) one = m := by
    simpa using nearest_unitsOf m Nat.one_pos
  constructor
  · intro h
    rw [← rounded m, ← rounded n]
    exact nearest_mono one_pos one_pos (Nat.mul_le_mul_right one h)
  · intro h
    rcases Nat.le_total (unitsOf m) (unitsOf n) with le | ge
    · exact le
    · have back := nearest_mono one_pos one_pos (Nat.mul_le_mul_right one ge)
      rw [rounded, rounded] at back
      exact Nat.le_of_eq (congrArg unitsOf (Nat.le_antisymm h back))

end Binary64

end DataGrid
