import DataGrid.Number.Power

/-!
# Rounding a quotient

The nearest integer to a quotient of natural numbers, with the two ways of settling a
tie that the number formats use, and the removal of trailing decimal zeros.
-/

namespace DataGrid

/-- The integer nearest to `n / d`; a half goes to the even neighbour. -/
def roundEven (n d : Nat) : Nat :=
  let q := n / d
  let r := n % d
  if 2 * r < d then q else if d < 2 * r then q + 1 else q + q % 2

/-- The integer nearest to `n / d`; a half goes up. -/
def roundHalfUp (n d : Nat) : Nat := (2 * n + d) / (2 * d)

@[simp] theorem roundEven_one (n : Nat) : roundEven n 1 = n := by
  simp [roundEven, Nat.mod_one]

theorem roundEven_mul_right (n : Nat) {d : Nat} (hd : 0 < d) : roundEven (n * d) d = n := by
  simp [roundEven, Nat.mul_div_cancel _ hd, hd]

theorem div_le_roundEven (n d : Nat) : n / d ≤ roundEven n d := by
  unfold roundEven; dsimp only; split
  · exact Nat.le_refl _
  · split <;> omega

theorem roundEven_le (n d : Nat) : roundEven n d ≤ n / d + 1 := by
  unfold roundEven; dsimp only; split
  · omega
  · split <;> omega

/-- Removes at most `k` trailing decimal zeros of `n`; the second part counts the removed ones. -/
def stripZeros : Nat → Nat → Nat × Nat
  | n, 0 => (n, 0)
  | n, k + 1 => if n % 10 = 0 then let (m, r) := stripZeros (n / 10) k; (m, r + 1) else (n, 0)

theorem stripZeros_mul (n k : Nat) :
    (stripZeros n k).1 * 10 ^ (stripZeros n k).2 = n := by
  induction k generalizing n with
  | zero => simp [stripZeros]
  | succ k ih =>
    unfold stripZeros
    split
    · have h := ih (n / 10)
      dsimp only
      rw [Nat.pow_succ, ← Nat.mul_assoc, h]
      omega
    · simp

theorem stripZeros_le (n k : Nat) : (stripZeros n k).2 ≤ k := by
  induction k generalizing n with
  | zero => simp [stripZeros]
  | succ k ih =>
    unfold stripZeros
    split
    · have h := ih (n / 10); dsimp only; omega
    · simp

theorem stripZeros_fst_le (n k : Nat) : (stripZeros n k).1 ≤ n := by
  induction k generalizing n with
  | zero => simp [stripZeros]
  | succ k ih =>
    unfold stripZeros
    split
    · have h := ih (n / 10); dsimp only; omega
    · simp

end DataGrid
