import DataGrid.Number.Power

/-!
# Narrowing integers

How an integer of any size becomes one of 64 bits: as it is where it is in range, and otherwise by
the low word of its magnitude, negated where it is negative. Main statement: that is the integer
modulo 2^64 (`lowBits_eq`).
-/

namespace DataGrid.Narrowing

/-- The words of 64 bits of a magnitude, least significant first; zero has none. -/
def words (n : Nat) : List UInt64 :=
  if n = 0 then [] else UInt64.ofNat n :: words (n / 2 ^ 64)
termination_by n
decreasing_by omega

/-- The low 64 bits of an integer. -/
def lowBits (n : Int) : Int64 :=
  let low := ((words n.natAbs).head?.getD 0).toInt64
  if n < 0 then -low else low

/-- An integer that is in the range of 64 bits. -/
def inRange? (n : Int) : Option Int64 :=
  if -2 ^ 63 ≤ n ∧ n < 2 ^ 63 then some (Int64.ofInt n) else none

/-- An integer as it is, or its low bits where it is out of range. -/
def narrow (n : Int) : Int64 := (inRange? n).getD (lowBits n)

theorem head?_words (n : Nat) : (words n).head?.getD 0 = UInt64.ofNat n := by
  unfold words
  split
  · next zero => simp [zero]
  · rfl

theorem lowBits_eq (n : Int) : lowBits n = Int64.ofInt n := by
  unfold lowBits
  rw [head?_words, UInt64.toInt64_ofNat']
  split
  · next negative =>
    have mirrored : -(n.natAbs : Int) = n := by omega
    calc -Int64.ofNat n.natAbs
      _ = Int64.ofInt (-(n.natAbs : Int)) := (Int64.ofInt_neg n.natAbs).symm
      _ = Int64.ofInt n := by rw [mirrored]
  · next positive =>
    have same : (n.natAbs : Int) = n := by omega
    exact congrArg Int64.ofInt same

theorem narrow_eq (n : Int) : narrow n = Int64.ofInt n := by
  unfold narrow inRange?
  split
  · rfl
  · exact lowBits_eq n

end DataGrid.Narrowing
