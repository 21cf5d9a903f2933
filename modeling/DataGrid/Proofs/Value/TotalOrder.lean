import DataGrid.Proofs.Number.DecimalRange
import DataGrid.Proofs.Value.Comparison

/-!
# How far values are totally ordered

Numbers with decimals compare as decimals, and others as doubles. Both orders agree as long as no
number without a decimal comes between two numbers with decimals that are rounded to the same
double, which happens at `2 ^ 96` and its negative and nowhere else. Main statement:
`totalCompare_spec`.
-/

namespace DataGrid.Value

open Binary64

/-! ## Numbers -/

/-- The decimal and the double of a number, by its size: an integer of 96 bits, another number
that has a decimal, or one beyond the decimals. -/
inductive Sized : Option Decimal → Binary64 → Prop
  | integer {n : Int} {d : Decimal} : n.natAbs < 2 ^ 96 → d.units = n * 10 ^ 28 →
      Sized (some d) (ofInt n)
  | short {d : Decimal} {x : Binary64} : d.units.natAbs ≤ Decimal.doubleLimit →
      x.place.natAbs < edge → Sized (some d) x
  | beyond {x : Binary64} : edge ≤ x.place.natAbs → Sized none x

theorem natAbs_place (x : Binary64) : x.place.natAbs = x.magnitude := by
  unfold place
  split <;> omega

theorem isNaN_ofInt (n : Int) : (ofInt n).isNaN = false := isNaN_ofRatio _ _ _

theorem sized_integer {n : Int} (h : n.natAbs < 2 ^ 96) : Sized (Decimal.ofInt? n) (ofInt n) := by
  obtain ⟨d, hd, units⟩ := Decimal.exists_ofInt? h
  rw [hd]
  exact .integer h units

/-- Every number that is no NaN has a double and is of one of the sizes. -/
theorem exists_sized {v : Value} (number : v.isNumeric = true) (ok : v.isNaN = false) :
    ∃ x, v.toBinary? = some x ∧ x.isNaN = false ∧ Sized v.toDecimal? x := by
  cases v with
  | null | bool | text | list | object => cases number
  | int n =>
    refine ⟨_, rfl, isNaN_ofInt _, sized_integer ?_⟩
    have := n.toInt_lt
    have := n.le_toInt
    omega
  | long n =>
    refine ⟨_, rfl, isNaN_ofInt _, sized_integer ?_⟩
    have := n.toInt_lt
    have := n.le_toInt
    omega
  | double x =>
    refine ⟨x, rfl, ok, ?_⟩
    by_cases below : x.magnitude < edge
    · obtain ⟨d, hd, units⟩ := Decimal.exists_ofBinary? below
      rw [toDecimal?, hd]
      exact .short units (by rwa [natAbs_place])
    · rw [toDecimal?, Decimal.ofBinary?_eq_none (Nat.not_lt.1 below)]
      exact .beyond (by rw [natAbs_place]; omega)
  | bigInteger n =>
    refine ⟨_, rfl, isNaN_ofInt _, ?_⟩
    by_cases fits : n.natAbs < 2 ^ 96
    · exact sized_integer fits
    · rw [toDecimal?, Decimal.ofInt?_eq_none (Nat.not_lt.1 fits)]
      refine .beyond ?_
      rcases Int.le_total 0 n with pos | neg
      · have := edge_le_place_ofInt (n := n) (by omega)
        omega
      · have := edge_le_place_ofInt (n := -n) (by omega)
        rw [place_ofInt_neg] at this
        omega
  | bigDecimal d =>
    by_cases whole : d.scale = 0
    · have double : d.toBinary = ofInt d.signed := if_pos whole
      have units : d.units = d.signed * 10 ^ 28 := by rw [Decimal.units, whole]
      refine ⟨_, rfl, by rw [double]; exact isNaN_ofInt _, ?_⟩
      rw [double]
      exact .integer (by rw [Decimal.natAbs_signed]; exact d.coefficient_lt) units
    · have below := Decimal.natAbs_place_toBinary whole
      refine ⟨_, rfl, ?_, .short (Decimal.natAbs_units_of_scale whole) below⟩
      have top : edge < topMagnitude := by decide
      rw [natAbs_place] at below
      simp only [Binary64.isNaN, decide_eq_false_iff_not]
      omega

/-! ### Sizes and doubles -/

variable {d d' : Option Decimal} {p q : Decimal} {x y z : Binary64}

theorem Sized.natAbs_place_le (h : Sized (some p) x) : x.place.natAbs ≤ edge := by
  cases h with
  | @integer n _ fits _ =>
    have := place_ofInt_le_edge (n := n) (by omega)
    have := place_ofInt_le_edge (n := -n) (by omega)
    rw [place_ofInt_neg] at this
    omega
  | short _ below => omega

/-- Above a decimal that is rounded to `2 ^ 96` there are only such. -/
theorem Sized.place_eq_edge (hp : Sized (some p) x) (hq : Sized (some q) y)
    (top : x.place = edge) (le : p.units ≤ q.units) : y.place = edge := by
  cases hp with
  | short _ below => omega
  | @integer n _ fits units =>
    have late : 2 ^ 96 - 2 ^ 43 < n := by
      rw [← Int.not_le]
      intro early
      have := place_ofInt_lt_edge early
      omega
    cases hq with
    | @integer m _ fits' units' =>
      have up : (ofInt n).place ≤ (ofInt m).place := place_ofInt_mono (by omega)
      have := place_ofInt_le_edge (n := m) (by omega)
      omega
    | short limit _ =>
      rw [Decimal.doubleLimit] at limit
      omega

theorem Sized.place_eq_neg_edge (hp : Sized (some p) x) (hq : Sized (some q) y)
    (bottom : x.place = -edge) (le : q.units ≤ p.units) : y.place = -edge := by
  cases hp with
  | short _ below => omega
  | @integer n _ fits units =>
    have late : 2 ^ 96 - 2 ^ 43 < -n := by
      rw [← Int.not_le]
      intro early
      have := place_ofInt_lt_edge early
      rw [place_ofInt_neg] at this
      omega
    cases hq with
    | @integer m _ fits' units' =>
      have down : (ofInt m).place ≤ (ofInt n).place := place_ofInt_mono (by omega)
      have := place_ofInt_le_edge (n := -m) (by omega)
      rw [place_ofInt_neg] at this
      omega
    | short limit _ =>
      rw [Decimal.doubleLimit] at limit
      omega

theorem Sized.le_natAbs_place (h : Sized none x) : edge ≤ x.place.natAbs := by
  cases h
  assumption

/-- Numbers in order: by their decimals if both have one, else by their doubles. -/
def SizedLe : Option Decimal → Binary64 → Option Decimal → Binary64 → Prop
  | some p, _, some q, _ => p.units ≤ q.units
  | _, x, _, y => x.place ≤ y.place

/-- The order of numbers is transitive, but for two decimals in reverse order with a number beyond
the decimals between them, all of the same double. -/
theorem sizedLe_trans_iff {a b c : Option Decimal} (ha : Sized a x) (hb : Sized b y)
    (hc : Sized c z) (ab : SizedLe a x b y) (bc : SizedLe b y c z) :
    SizedLe a x c z ↔ ¬ (b = none ∧ (∃ p q, a = some p ∧ c = some q ∧ q.units < p.units) ∧
      (x.place = edge ∧ y.place = edge ∧ z.place = edge ∨
        x.place = -edge ∧ y.place = -edge ∧ z.place = -edge)) := by
  match a, b, c with
  | some p, some q, some r =>
    have le : p.units ≤ r.units := Int.le_trans ab bc
    simpa [SizedLe] using le
  | some p, none, some r =>
    have far := hb.le_natAbs_place
    have := ha.natAbs_place_le
    have := hc.natAbs_place_le
    have up := hc.place_eq_edge ha
    have down := ha.place_eq_neg_edge hc
    simp only [SizedLe] at *
    constructor
    · rintro le ⟨-, ⟨p', r', e, e', lt⟩, -⟩
      cases e
      cases e'
      omega
    · intro straight
      rw [← Int.not_lt]
      intro lt
      refine straight ⟨trivial, ⟨p, r, rfl, rfl, lt⟩, ?_⟩
      omega
  | some p, some q, none =>
    have := ha.natAbs_place_le
    have far := hc.le_natAbs_place
    have := hb.natAbs_place_le
    have down := hb.place_eq_neg_edge ha
    simp only [SizedLe] at *
    simp
    omega
  | none, some q, some r =>
    have := hc.natAbs_place_le
    have far := ha.le_natAbs_place
    have := hb.natAbs_place_le
    have up := hb.place_eq_edge hc
    simp only [SizedLe] at *
    simp
    omega
  | some p, none, none | none, some q, none | none, none, some r | none, none, none =>
    have le : x.place ≤ z.place := Int.le_trans ab bc
    simpa [SizedLe] using le

theorem compare_ne_gt {m n : Int} : compare m n ≠ .gt ↔ m ≤ n := by
  rw [ne_eq, Int.compare_eq_gt]
  omega

theorem numericCompare?_sized {v w : Value} (hx : v.toBinary? = some x) (hy : w.toBinary? = some y)
    (okx : x.isNaN = false) (oky : y.isNaN = false) :
    ∃ o, v.numericCompare? w = some o ∧ (o ≠ .gt ↔ SizedLe v.toDecimal? x w.toDecimal? y) := by
  have doubles : x.compare? y = some (compare x.units y.units) := by
    simp [Binary64.compare?, okx, oky]
  unfold numericCompare?
  cases v.toDecimal? with
  | none => exact ⟨_, by simp [hx, hy, doubles], compare_ne_gt.trans units_le_units⟩
  | some p =>
    cases w.toDecimal? with
    | none => exact ⟨_, by simp [hx, hy, doubles], compare_ne_gt.trans units_le_units⟩
    | some q => exact ⟨_, rfl, compare_ne_gt⟩

/-! ## All values -/

theorem isNumeric_iff {v : Value} : v.isNumeric = true ↔ v.kind.rank = 2 := by
  unfold isNumeric
  cases v.kind <;> simp [Kind.isNumeric, Kind.rank]

theorem isNumeric_of_isNaN {v : Value} (h : v.isNaN = true) : v.isNumeric = true := by
  cases v <;> first | rfl | cases h

/-- Kinds of other ranks compare by rank. -/
theorem totalCompare_of_rank_ne {v w : Value} (h : v.kind.rank ≠ w.kind.rank) :
    v.totalCompare w = compare v.kind.rank w.kind.rank := by
  have mixed : ¬ (v.isNumeric = true ∧ w.isNumeric = true) := by
    rw [isNumeric_iff, isNumeric_iff]
    omega
  have ranked : v.rankedCompare w = compare v.kind.rank w.kind.rank := by
    have natural : v.naturalCompare? w = none := by
      cases e : v.naturalCompare? w with
      | none => rfl
      | some o => exact absurd (congrArg Kind.rank (kind_eq_of_naturalCompare? e)) h
    simp [rankedCompare, compare?, mixed, natural]
  unfold totalCompare
  cases hv : v.isNaN <;> cases hw : w.isNaN <;>
    simp_all [isNumeric_of_isNaN]

/-- Other values of one rank compare within their kind; what has no order there is equal. -/
theorem totalCompare_of_rank_eq {v w : Value} (h : v.kind.rank = w.kind.rank)
    (other : v.kind.rank ≠ 2) : v.totalCompare w = (v.naturalCompare? w).getD .eq := by
  have plain {u : Value} (hu : u.kind.rank ≠ 2) : u.isNumeric = false ∧ u.isNaN = false := by
    have number : u.isNumeric = false := by
      rw [← Bool.not_eq_true, isNumeric_iff]
      exact hu
    exact ⟨number, by rw [← Bool.not_eq_true]; exact fun e => by simp [isNumeric_of_isNaN e] at number⟩
  obtain ⟨hv, okv⟩ := plain other
  obtain ⟨-, okw⟩ := plain (h ▸ other)
  have same : compare v.kind.rank w.kind.rank = .eq := Nat.compare_eq_eq.2 h
  simp [totalCompare, okv, okw, rankedCompare, compare?, hv, same]

/-- A NaN comes behind the other numbers. -/
theorem totalCompare_numbers {v w : Value} (hv : v.isNumeric = true) (hw : w.isNumeric = true) :
    v.totalCompare w =
      match v.isNaN, w.isNaN with
      | true, true => .eq
      | true, false => .gt
      | false, true => .lt
      | false, false => (v.numericCompare? w).getD .eq := by
  have same : compare v.kind.rank w.kind.rank = .eq :=
    Nat.compare_eq_eq.2 ((isNumeric_iff.1 hv).trans (isNumeric_iff.1 hw).symm)
  unfold totalCompare
  cases v.isNaN <;> cases w.isNaN <;> simp [hv, hw, rankedCompare, compare?, same]

theorem totalLe_iff {v w : Value} : v.totalLe w = true ↔ v.totalCompare w ≠ .gt := by
  simp [totalLe]

/-- Numbers in order, if neither is a NaN. -/
theorem totalLe_numbers {v w : Value} (hv : v.isNumeric = true) (hw : w.isNumeric = true)
    (okv : v.isNaN = false) (okw : w.isNaN = false) (hx : v.toBinary? = some x)
    (hy : w.toBinary? = some y) (okx : x.isNaN = false) (oky : y.isNaN = false) :
    v.totalLe w = true ↔ SizedLe v.toDecimal? x w.toDecimal? y := by
  obtain ⟨o, ho, le⟩ := numericCompare?_sized hx hy okx oky
  rw [totalLe_iff, totalCompare_numbers hv hw, okv, okw]
  simpa [ho] using le

/-! ## The order -/

/-- One double stands for three numbers, `2 ^ 96` or its negative; the one in the middle has no
decimal, and the decimals of the outer two go down. -/
def Straddles (a b c : Value) : Prop :=
  b.toDecimal? = none ∧
    (∃ p q, a.toDecimal? = some p ∧ c.toDecimal? = some q ∧ q.units < p.units) ∧
    ∃ s, ∀ v ∈ [a, b, c], v.toBinary? = some (pack s edge)

theorem compare?_swap (x y : Binary64) : y.compare? x = (x.compare? y).map Ordering.swap := by
  unfold Binary64.compare?
  rw [Bool.or_comm]
  split
  · rfl
  · exact congrArg some Std.OrientedCmp.eq_swap

theorem numericCompare?_swap (v w : Value) :
    w.numericCompare? v = (v.numericCompare? w).map Ordering.swap := by
  have doubles : (do let y ← w.toBinary?; let x ← v.toBinary?; y.compare? x) =
      (do let x ← v.toBinary?; let y ← w.toBinary?; x.compare? y).map Ordering.swap := by
    cases v.toBinary? <;> cases w.toBinary? <;> first | rfl | exact compare?_swap _ _
  unfold numericCompare?
  cases v.toDecimal? with
  | none => cases w.toDecimal? <;> exact doubles
  | some p =>
    cases w.toDecimal? with
    | none => exact doubles
    | some q =>
      simp only [Decimal.compare, Option.map_some, Option.some.injEq]
      exact Std.OrientedCmp.eq_swap

theorem totalCompare_swap (v w : Value) : w.totalCompare v = (v.totalCompare w).swap := by
  by_cases ranks : v.kind.rank = w.kind.rank
  · by_cases numbers : v.kind.rank = 2
    · have hv := isNumeric_iff.2 numbers
      have hw := isNumeric_iff.2 (ranks ▸ numbers)
      rw [totalCompare_numbers hv hw, totalCompare_numbers hw hv, numericCompare?_swap]
      cases v.isNaN <;> cases w.isNaN <;> try rfl
      cases v.numericCompare? w <;> rfl
    · rw [totalCompare_of_rank_eq ranks numbers,
        totalCompare_of_rank_eq ranks.symm (ranks ▸ numbers), naturalCompare?_swap]
      cases v.naturalCompare? w <;> rfl
  · rw [totalCompare_of_rank_ne ranks, totalCompare_of_rank_ne (Ne.symm ranks)]
    exact Std.OrientedCmp.eq_swap

theorem totalCompare_self (v : Value) : v.totalCompare v = .eq := by
  have swap := totalCompare_swap v v
  cases h : v.totalCompare v with
  | eq => rfl
  | lt | gt => simp [h] at swap

theorem isNumeric_of_edge {v : Value} {s : Bool} (h : v.toBinary? = some (pack s edge)) :
    v.isNumeric = true ∧ v.isNaN = false := by
  cases v with
  | null | bool | text | list | object => cases h
  | int | long | bigInteger | bigDecimal => exact ⟨rfl, rfl⟩
  | double =>
    cases h
    cases s <;> exact ⟨rfl, rfl⟩

theorem rank_le_of_totalLe {v w : Value} (h : v.totalLe w = true) : v.kind.rank ≤ w.kind.rank := by
  rw [totalLe_iff] at h
  rw [← Nat.not_lt]
  intro lt
  rw [totalCompare_of_rank_ne (by omega)] at h
  exact h (Nat.compare_eq_gt.2 lt)

theorem Kind.eq_of_rank {k l : Kind} (h : k.rank = l.rank) (other : k.rank ≠ 2) : k = l := by
  cases k <;> cases l <;> first | rfl | simp [Kind.rank] at h other

/-- Values that are not numbers are ordered transitively. -/
theorem totalLe_trans_of_rank {a b c : Value} (ab : a.kind.rank = b.kind.rank)
    (bc : b.kind.rank = c.kind.rank) (other : a.kind.rank ≠ 2) (h : a.totalLe b = true)
    (k : b.totalLe c = true) : a.totalLe c = true := by
  rw [totalLe_iff] at *
  rw [totalCompare_of_rank_eq ab other] at h
  rw [totalCompare_of_rank_eq bc (ab ▸ other)] at k
  rw [totalCompare_of_rank_eq (ab.trans bc) other]
  have same : a.kind = b.kind := Kind.eq_of_rank ab other
  have same' : b.kind = c.kind := Kind.eq_of_rank bc (ab ▸ other)
  by_cases ordered : a.kind ≠ .list ∧ a.kind ≠ .object
  · obtain ⟨o, ho⟩ := Option.isSome_iff_exists.1 (isSome_naturalCompare?.2 ⟨same, ordered⟩)
    obtain ⟨p, hp⟩ := Option.isSome_iff_exists.1
      (isSome_naturalCompare?.2 ⟨same', same ▸ ordered⟩)
    obtain ⟨q, hq, up, -⟩ := naturalCompare?_trans ho hp
    rw [ho, Option.getD_some] at h
    rw [hp, Option.getD_some] at k
    rw [hq, Option.getD_some, up h k]
    cases o with
    | lt => simp [Ordering.then]
    | eq => exact k
    | gt => exact absurd rfl h
  · have none : a.naturalCompare? c = none := by
      rw [← Option.not_isSome_iff_eq_none, isSome_naturalCompare?]
      exact fun held => ordered held.2
    rw [none]
    decide

theorem eq_pack_edge {x : Binary64} {s : Bool} :
    x = pack s edge ↔ x.place = if s then -(edge : Int) else edge := by
  have small : edge < 2 ^ 63 := by decide
  have pos : 0 < edge := by decide
  constructor
  · rintro rfl
    rw [place, negative_pack s edge small, magnitude_pack s edge small]
  · intro h
    have whole := x.eq_pack
    unfold place at h
    cases s <;> cases sign : x.negative <;> simp only [sign, Bool.false_eq_true, if_false, if_true] at h
    · rw [whole, sign, Int.ofNat.inj h]
    · omega
    · omega
    · rw [whole, sign, Int.ofNat.inj (Int.neg_inj.1 h)]

/-- Three numbers straddle exactly in the places that keep their order from being transitive. -/
theorem straddles_iff {a b c : Value} (hx : a.toBinary? = some x) (hy : b.toBinary? = some y)
    (hz : c.toBinary? = some z) :
    Straddles a b c ↔ b.toDecimal? = none ∧
      (∃ p q, a.toDecimal? = some p ∧ c.toDecimal? = some q ∧ q.units < p.units) ∧
      (x.place = edge ∧ y.place = edge ∧ z.place = edge ∨
        x.place = -edge ∧ y.place = -edge ∧ z.place = -edge) := by
  simp only [Straddles, List.mem_cons, List.not_mem_nil, or_false, forall_eq_or_imp, forall_eq,
    hx, hy, hz, Option.some.injEq, eq_pack_edge, Bool.exists_bool, Bool.false_eq_true, if_false,
    if_true]

/-- A NaN has no number behind it. -/
theorem isNaN_of_totalLe {v w : Value} (hv : v.isNumeric = true) (hw : w.isNumeric = true)
    (h : v.totalLe w = true) (ok : w.isNaN = false) : v.isNaN = false := by
  rw [totalLe_iff, totalCompare_numbers hv hw, ok] at h
  cases e : v.isNaN with
  | false => rfl
  | true => simp [e] at h

theorem totalLe_trans_numbers {a b c : Value} (ha : a.isNumeric = true) (hb : b.isNumeric = true)
    (hc : c.isNumeric = true) (h : a.totalLe b = true) (k : b.totalLe c = true) :
    a.totalLe c = true ↔ ¬ Straddles a b c := by
  cases okc : c.isNaN with
  | true =>
    have le : a.totalLe c = true := by
      rw [totalLe_iff, totalCompare_numbers ha hc, okc]
      cases a.isNaN <;> simp
    simp only [le, true_iff]
    rintro ⟨-, -, s, edges⟩
    have := (isNumeric_of_edge (edges c (by simp))).2
    simp [okc] at this
  | false =>
    have okb := isNaN_of_totalLe hb hc k okc
    have oka := isNaN_of_totalLe ha hb h okb
    obtain ⟨x, hx, okx, sa⟩ := exists_sized ha oka
    obtain ⟨y, hy, oky, sb⟩ := exists_sized hb okb
    obtain ⟨z, hz, okz, sc⟩ := exists_sized hc okc
    rw [totalLe_numbers ha hb oka okb hx hy okx oky] at h
    rw [totalLe_numbers hb hc okb okc hy hz oky okz] at k
    rw [totalLe_numbers ha hc oka okc hx hz okx okz, straddles_iff hx hy hz]
    exact sizedLe_trans_iff sa sb sc h k

/-- Values are ordered transitively unless they straddle. -/
theorem totalLe_trans_iff {a b c : Value} (h : a.totalLe b = true) (k : b.totalLe c = true) :
    a.totalLe c = true ↔ ¬ Straddles a b c := by
  have ab := rank_le_of_totalLe h
  have bc := rank_le_of_totalLe k
  by_cases numbers : a.kind.rank = 2 ∧ c.kind.rank = 2
  · exact totalLe_trans_numbers (isNumeric_iff.2 numbers.1) (isNumeric_iff.2 (by omega))
      (isNumeric_iff.2 numbers.2) h k
  · have straight : ¬ Straddles a b c := by
      rintro ⟨-, -, s, edges⟩
      exact numbers ⟨isNumeric_iff.1 (isNumeric_of_edge (edges a (by simp))).1,
        isNumeric_iff.1 (isNumeric_of_edge (edges c (by simp))).1⟩
    simp only [straight, not_false_eq_true, iff_true]
    rcases Nat.lt_or_eq_of_le (Nat.le_trans ab bc) with lt | eq
    · rw [totalLe_iff, totalCompare_of_rank_ne (Nat.ne_of_lt lt), Nat.compare_eq_lt.2 lt]
      decide
    · exact totalLe_trans_of_rank (by omega) (by omega) (by omega) h k

/-- Reflexive, the same from both sides, and transitive unless the values straddle an end of the
decimals. -/
theorem totalCompare_spec (a b c : Value) :
    a.totalCompare a = .eq ∧ b.totalCompare a = (a.totalCompare b).swap ∧
      (a.totalCompare b ≠ .gt → b.totalCompare c ≠ .gt →
        (a.totalCompare c ≠ .gt ↔ ¬ Straddles a b c)) := by
  refine ⟨totalCompare_self a, totalCompare_swap a b, ?_⟩
  simp only [← totalLe_iff]
  exact totalLe_trans_iff

/-- A decimal, a number beyond the decimals and an infinity. -/
theorem totalCompare_spec_infinity :
    let a := bigInteger (2 ^ 96 - 1)
    let b := bigInteger (2 ^ 96)
    let c := double (infinity false)
    a.totalCompare b ≠ .gt ∧ b.totalCompare c ≠ .gt ∧ ¬ Straddles a b c ∧
      a.totalCompare c ≠ .gt := by
  intro a b c
  have ab : a.totalCompare b ≠ .gt := by decide +kernel
  have bc : b.totalCompare c ≠ .gt := by decide +kernel
  have straight : ¬ Straddles a b c := by
    rintro ⟨-, ⟨p, q, -, hq, -⟩, -⟩
    cases hq
  exact ⟨ab, bc, straight, ((totalCompare_spec a b c).2.2 ab bc).2 straight⟩

/-- Around the double of `2 ^ 96`: the outer two have decimals, the integer between has none. -/
theorem totalCompare_not_transitive :
    let a := bigInteger (2 ^ 96 - 1)
    let b := bigInteger (2 ^ 96)
    let c := bigInteger (2 ^ 96 - 2)
    a.totalCompare b ≠ .gt ∧ b.totalCompare c ≠ .gt ∧ a.totalCompare c = .gt := by
  decide +kernel

end DataGrid.Value
