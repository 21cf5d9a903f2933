import DataGrid.Json.Basic

/-!
# JSON numerals

A numeral is the spelling of a number: sign, whole digits, fraction, exponent. Its value is
an integer where 64 bits hold one; otherwise a double, found from the leading digits that
fit 64 bits by one multiplication or division by a power of ten. A value beyond the largest
double is out of range.
-/

namespace DataGrid.Json

structure Exponent where
  negative : Bool
  digits : List Char

structure Numeral where
  negative : Bool
  whole : List Char
  fraction : Option (List Char)
  exponent : Option Exponent

def isDigit (c : Char) : Bool := '0' ≤ c && c ≤ '9'

def digitValue (c : Char) : Nat := c.toNat - '0'.toNat

namespace Numeral

/-- The digits after a point, if there is one; at least one digit must follow it. -/
def fraction? : List Char → Option (Option (List Char) × List Char)
  | '.' :: cs =>
    let ds := cs.takeWhile isDigit
    if ds.isEmpty then none else some (some ds, cs.dropWhile isDigit)
  | cs => some (none, cs)

def exponentDigits? (neg : Bool) (cs : List Char) : Option (Option Exponent × List Char) :=
  let ds := cs.takeWhile isDigit
  if ds.isEmpty then none else some (some ⟨neg, ds⟩, cs.dropWhile isDigit)

/-- The exponent, if there is one; at least one digit must follow its mark and sign. -/
def exponent? : List Char → Option (Option Exponent × List Char)
  | c :: cs =>
    if c = 'e' ∨ c = 'E' then
      match cs with
      | '+' :: r => exponentDigits? false r
      | '-' :: r => exponentDigits? true r
      | _ => exponentDigits? false cs
    else some (none, c :: cs)
  | [] => some (none, [])

/-- Reads the unsigned part: no digits before a leading zero's successor, no empty whole part. -/
def unsigned? (neg : Bool) (cs : List Char) : Option (Numeral × List Char) := do
  let ds := cs.takeWhile isDigit
  if ds.isEmpty ∨ (ds.head? = some '0' ∧ 1 < ds.length) then none
  else
    let (f, r) ← fraction? (cs.dropWhile isDigit)
    let (e, r) ← exponent? r
    some (⟨neg, ds, f, e⟩, r)

/-- Reads the longest numeral at the head of a text. -/
def scan? : List Char → Option (Numeral × List Char)
  | '-' :: cs => unsigned? true cs
  | cs => unsigned? false cs

theorem length_dropWhile_le (p : Char → Bool) (cs : List Char) :
    (cs.dropWhile p).length ≤ cs.length := List.Sublist.length_le (List.dropWhile_sublist p)

theorem fraction?_length {cs r : List Char} {f : Option (List Char)}
    (h : fraction? cs = some (f, r)) : r.length ≤ cs.length := by
  unfold fraction? at h
  split at h
  · dsimp only at h
    split at h
    · simp at h
    · simp only [Option.some.injEq, Prod.mk.injEq] at h
      obtain ⟨-, rfl⟩ := h
      exact Nat.le_succ_of_le (length_dropWhile_le _ _)
  · simp only [Option.some.injEq, Prod.mk.injEq] at h
    exact h.2 ▸ Nat.le_refl _

theorem exponentDigits?_length {neg : Bool} {cs r : List Char} {e : Option Exponent}
    (h : exponentDigits? neg cs = some (e, r)) : r.length ≤ cs.length := by
  unfold exponentDigits? at h
  dsimp only at h
  split at h
  · simp at h
  · simp only [Option.some.injEq, Prod.mk.injEq] at h
    obtain ⟨-, rfl⟩ := h
    exact length_dropWhile_le _ _

theorem exponent?_length {cs r : List Char} {e : Option Exponent}
    (h : exponent? cs = some (e, r)) : r.length ≤ cs.length := by
  unfold exponent? at h
  split at h
  · split at h
    · split at h <;> have := exponentDigits?_length h <;> simp at this ⊢ <;> omega
    · simp only [Option.some.injEq, Prod.mk.injEq] at h
      exact h.2 ▸ Nat.le_refl _
  · simp only [Option.some.injEq, Prod.mk.injEq] at h
    exact h.2 ▸ Nat.le_refl _

theorem unsigned?_length {neg : Bool} {cs r : List Char} {n : Numeral}
    (h : unsigned? neg cs = some (n, r)) : r.length < cs.length := by
  unfold unsigned? at h
  dsimp only at h
  split at h
  · simp at h
  · next some_digit =>
    simp only [Option.bind_eq_bind, Option.bind_eq_some_iff] at h
    obtain ⟨⟨f, r₁⟩, h₁, ⟨e, r₂⟩, h₂, h₃⟩ := h
    simp only [Option.some.injEq, Prod.mk.injEq] at h₃
    have l₁ := fraction?_length h₁
    have l₂ : r₂.length ≤ r₁.length := exponent?_length h₂
    have l₃ : (cs.takeWhile isDigit ++ cs.dropWhile isDigit).length = cs.length :=
      congrArg _ List.takeWhile_append_dropWhile
    have l₄ : 0 < (cs.takeWhile isDigit).length :=
      List.length_pos_iff.2 fun e => some_digit (.inl (by simp [e]))
    rw [List.length_append] at l₃
    rw [← show r₂ = r from h₃.2]
    omega

theorem scan?_length {cs r : List Char} {n : Numeral} (h : scan? cs = some (n, r)) :
    r.length < cs.length := by
  unfold scan? at h
  split at h
  · exact Nat.lt_succ_of_lt (unsigned?_length h)
  · exact unsigned?_length h

/-- Leading digits that fit 64 bits, and how many digits are left over. -/
def significand (n : Nat) : List Char → Nat × Nat
  | [] => (n, 0)
  | c :: cs =>
    let m := n * 10 + digitValue c
    if m < 2 ^ 64 then significand m cs else (n, cs.length + 1)

/-- `10 ^ k` as a double. -/
def tens (k : Nat) : Binary64 := Binary64.ofInt (10 ^ k : Nat)

/-- Divides by `10 ^ e`, at most by `10 ^ 308` at a time; `fuel` bounds the steps. -/
def divideTens : Nat → Binary64 → Nat → Binary64
  | 0, x, _ => x
  | fuel + 1, x, e =>
    if e ≤ 308 then x / tens e
    else if x.magnitude = 0 then x
    else divideTens fuel (x / tens 308) (e - 308)

/-- The double `m * 10 ^ e`; nothing when it is too large. -/
def scale? (m : Nat) (e : Int) : Option Binary64 :=
  let x := Binary64.ofInt (m : Nat)
  if e < 0 then some (divideTens (e.natAbs / 308 + 1) x e.natAbs)
  else if m = 0 then some x
  else if 308 < e then none
  else
    let y := x * tens e.toNat
    if y.isInfinite then none else some y

/-- The value of an exponent; nothing above the largest signed number of 32 bits. -/
def Exponent.value? (e : Exponent) : Option Nat :=
  e.digits.foldlM (fun n c =>
    let m := n * 10 + digitValue c
    if m < 2 ^ 31 then some m else none) 0

/-- The value as a double, without the sign. -/
def size? (n : Numeral) : Option Binary64 :=
  let (m, left) := significand 0 n.whole
  let (m, shift) : Nat × Int := match n.fraction with
    | none => (m, left)
    | some ds =>
      let (m, rest) := significand m ds
      (m, (left : Int) - (ds.length - rest : Nat))
  match n.exponent with
  | none => scale? m shift
  | some e =>
    match Exponent.value? e with
    | none => if m = 0 ∨ e.negative then some (Binary64.zero false) else none
    | some k =>
      let bound (i : Int) := max (-2 ^ 31) (min i (2 ^ 31 - 1))
      scale? m (bound (if e.negative then shift - k else shift + k))

/-- The number a numeral stands for; nothing when it is out of range. -/
def value? (n : Numeral) : Option Json :=
  let (m, left) := significand 0 n.whole
  if n.fraction.isNone ∧ n.exponent.isNone ∧ left = 0 ∧
      (n.negative → 0 < m ∧ m ≤ 2 ^ 63) then
    some (.int (if n.negative then -(m : Int) else m))
  else n.size?.map fun x => .float (if n.negative then -x else x)

end Numeral

end DataGrid.Json
