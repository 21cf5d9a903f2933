import DataGrid.Number.Decimal.Text

/-!
# Reading decimals back

The text of a decimal has room in a decimal, so it is read without rounding: the coefficient and the
scale are those that were written. Only the sign of a zero is lost. Main statement: `parse?_render`.
-/

namespace DataGrid.Decimal

variable {c : Char} {cs r : List Char} {n : Nat}

theorem digit?_of_isDigit (h : c.isDigit = true) : digit? c = some (c.toNat - '0'.toNat) := by
  rw [Char.isDigit, Bool.and_eq_true, decide_eq_true_eq, decide_eq_true_eq] at h
  exact if_pos ⟨h.1, h.2⟩

theorem le_ofDigitChars (cs : List Char) (n : Nat) : n ≤ Nat.ofDigitChars 10 cs n := by
  induction cs generalizing n with
  | nil => exact Nat.le_refl n
  | cons c cs ih =>
    rw [Nat.ofDigitChars_cons]
    have next := ih (10 * n + (c.toNat - '0'.toNat))
    omega

/-- Digits are read into the number as long as there is room for it and for their places. -/
theorem parseDigits?_digits (point : Bool) {neg any : Bool} {scale : Nat}
    (digits : ∀ c ∈ cs, c.isDigit = true) (room : Nat.ofDigitChars 10 cs n < 2 ^ 96)
    (places : point = true → scale + cs.length ≤ 28) :
    parseDigits? neg n scale point any (cs ++ r) =
      parseDigits? neg (Nat.ofDigitChars 10 cs n) (if point then scale + cs.length else scale)
        point (any || !cs.isEmpty) r := by
  induction cs generalizing n scale any with
  | nil => simp [Nat.ofDigitChars]
  | cons c cs ih =>
    obtain ⟨digit, digits⟩ := List.forall_mem_cons.1 digits
    rw [Nat.ofDigitChars_cons, Nat.mul_comm] at room ⊢
    -- The number only grows with further digits, so it has room now if it has in the end.
    have small := le_ofDigitChars cs (n * 10 + (c.toNat - '0'.toNat))
    have space : ¬ (point = true ∧ scale = 28) := by
      rintro ⟨point, rfl⟩
      have all := places point
      rw [List.length_cons] at all
      omega
    have rest : point = true → (if point then scale + 1 else scale) + cs.length ≤ 28 := by
      intro point
      have all := places point
      rw [List.length_cons] at all
      rw [if_pos point]
      omega
    rw [List.cons_append, parseDigits?, digit?_of_isDigit digit]
    simp only [if_neg space, if_pos (Nat.lt_of_le_of_lt small room)]
    rw [ih digits room rest]
    cases point
    · simp
    · simp [Nat.add_assoc, Nat.add_comm 1]

/-- Digits with a point among them are read as they stand. -/
theorem parseDigits?_point (neg : Bool) {whole places : List Char} (first : whole ≠ [])
    (digit : ∀ c ∈ whole ++ places, c.isDigit = true)
    (room : Nat.ofDigitChars 10 (whole ++ places) 0 < 2 ^ 96) (scale : places.length ≤ 28) :
    parseDigits? neg 0 0 false false (whole ++ if places.isEmpty then [] else '.' :: places) =
      ofParts? neg (Nat.ofDigitChars 10 (whole ++ places) 0) places.length := by
  obtain ⟨digitW, digitP⟩ := List.forall_mem_append.1 digit
  rw [Nat.ofDigitChars_append] at room ⊢
  have wholeRoom := Nat.lt_of_le_of_lt (le_ofDigitChars places _) room
  have any : (false || !whole.isEmpty) = true := by simpa using first
  rw [parseDigits?_digits false digitW wholeRoom nofun, any, if_neg Bool.false_ne_true]
  cases places with
  | nil => rfl
  | cons c r =>
    have behind : parseDigits? neg (Nat.ofDigitChars 10 whole 0) 0 true true (c :: r ++ []) =
        ofParts? neg (Nat.ofDigitChars 10 (c :: r) (Nat.ofDigitChars 10 whole 0))
          (c :: r).length := by
      rw [parseDigits?_digits true digitP room fun _ => (Nat.zero_add _).symm ▸ scale, if_pos rfl,
        Nat.zero_add]
      rfl
    rw [List.append_nil] at behind
    exact behind

theorem ofDigitChars_zeros (k : Nat) : Nat.ofDigitChars 10 (List.replicate k '0') 0 = 0 := by
  induction k with
  | zero => rfl
  | succ k ih =>
    rw [List.replicate_succ, Nat.ofDigitChars_cons]
    exact ih

/-- The digits of the coefficient, from the one before the point. -/
def padded (x : Decimal) : List Char :=
  List.replicate (x.scale + 1 - (Nat.toDigits 10 x.coefficient).length) '0' ++
    Nat.toDigits 10 x.coefficient

theorem scale_lt_length_padded (x : Decimal) : x.scale < x.padded.length := by
  rw [padded, List.length_append, List.length_replicate]
  omega

theorem isDigit_of_mem_padded {x : Decimal} (h : c ∈ x.padded) : c.isDigit = true := by
  rcases List.mem_append.1 h with zero | digit
  · rw [List.eq_of_mem_replicate zero]
    decide
  · exact Nat.isDigit_of_mem_toDigits (by decide) (by decide) digit

theorem ofDigitChars_padded (x : Decimal) : Nat.ofDigitChars 10 x.padded 0 = x.coefficient := by
  rw [padded, Nat.ofDigitChars_append, ofDigitChars_zeros, Nat.ofDigitChars_ten_toDigits]

/-- The digits before the point, and those of the places. -/
theorem toList_render (x : Decimal) : ∃ whole places, x.padded = whole ++ places ∧ whole ≠ [] ∧
    places.length = x.scale ∧
    x.render.toList = (if x.negative then ['-'] else []) ++
      (whole ++ if places.isEmpty then [] else '.' :: places) := by
  have long := x.scale_lt_length_padded
  have digits : (toString x.coefficient).toList = Nat.toDigits 10 x.coefficient := by
    rw [Nat.toString_eq_ofList_toDigits, String.toList_ofList]
  refine ⟨x.padded.take (x.padded.length - x.scale), x.padded.drop (x.padded.length - x.scale),
    (List.take_append_drop _ _).symm, ?_, ?_, ?_⟩
  · intro none
    have length := congrArg List.length none
    rw [List.length_take, List.length_nil] at length
    omega
  · rw [List.length_drop]
    omega
  · have padding : List.replicate (x.scale + 1 - (Nat.toDigits 10 x.coefficient).length) '0' ++
        Nat.toDigits 10 x.coefficient = x.padded := rfl
    simp only [render, digits, padding, String.toList_append, String.toList_ofList,
      List.append_assoc]
    congr 1
    · cases x.negative <;> rfl
    · congr 1
      split
      · rfl
      · simp only [String.toList_append, String.toList_ofList]
        rfl

/-- A decimal as it is read from its text: a zero has no sign. -/
def settled (x : Decimal) : Decimal := { x with negative := x.negative && x.coefficient != 0 }

@[simp] theorem units_settled (x : Decimal) : x.settled.units = x.units := by
  unfold units signed settled
  by_cases zero : x.coefficient = 0 <;> simp [zero]

theorem ofParts?_eq_settled (x : Decimal) :
    ofParts? x.negative x.coefficient x.scale = some x.settled :=
  dif_pos ⟨x.coefficient_lt, x.scale_le⟩

theorem parse?_of_isDigit {s : String} (text : s.toList = c :: cs) (digit : c.isDigit = true) :
    parse? s = parseDigits? false 0 0 false false (c :: cs) := by
  rw [parse?, text]
  split
  · next sign => cases sign; cases digit
  · next sign => cases sign; cases digit
  · rfl

/-- What is written for a decimal is read as the same number of the same scale. -/
theorem parse?_render (x : Decimal) : parse? x.render = some x.settled := by
  obtain ⟨whole, places, split, first, length, text⟩ := x.toList_render
  have digit : ∀ c ∈ whole ++ places, c.isDigit = true := fun c hc =>
    isDigit_of_mem_padded (split ▸ hc)
  have number : Nat.ofDigitChars 10 (whole ++ places) 0 = x.coefficient :=
    split ▸ x.ofDigitChars_padded
  have unsigned := parseDigits?_point x.negative first digit (number ▸ x.coefficient_lt)
    (length ▸ x.scale_le)
  rw [number, length, ofParts?_eq_settled] at unsigned
  cases sign : x.negative with
  | true =>
    rw [sign] at text unsigned
    rw [parse?, text]
    exact unsigned
  | false =>
    rw [sign] at text unsigned
    obtain ⟨c, w, rfl⟩ := List.exists_cons_of_ne_nil first
    rw [parse?_of_isDigit text (digit c List.mem_cons_self)]
    exact unsigned

end DataGrid.Decimal
