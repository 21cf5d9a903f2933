import DataGrid.Proofs.Aggregate.Combine
import DataGrid.Proofs.Number.DecimalAddition
import DataGrid.Query.Executor
import Mathlib.Algebra.Order.BigOperators.Group.List
import Mathlib.Data.List.Flatten

/-!
# Sums of decimals in parts

A sum of decimals is rounded, without an error, where it has no room for all places. Main
statement: however entries are split into parts, their sum is exact if there are decimals of the
sums that are formed on the way (`decimalSum_exact`), which is so if the digits of all entries
together fit (`decimalSum_exact_of_short`). In any case an addition costs half at most
(`decimalSum_near`).
-/

namespace DataGrid

/-- There is a decimal of `n` units. -/
def Decimal.Representable (n : Int) : Prop := ∃ d : Decimal, d.units = n

namespace Aggregator

open Decimal

/-- Entries that are aggregated in parts, which are combined in order. -/
def aggregateParts (a : Aggregator) (parts : List (List Entry)) : Except GridError Aggregator :=
  parts.mapM a.accumulateAll >>= Executor.combineAll a

variable {path : Option AttributePath} {a b c : Aggregator} {e : Entry} {es : List Entry}
  {parts : List (List Entry)} {m n : Int} {k l : Nat}

theorem combineAll_cons_eq_ok {a c : Aggregator} {p : Aggregator} {ps : List Aggregator}
    (h : Executor.combineAll a (p :: ps) = .ok c) :
    ∃ b, a.combine p = .ok b ∧ Executor.combineAll b ps = .ok c := by
  rw [Executor.combineAll, List.foldlM_cons] at h
  cases hb : a.combine p with
  | error e => simp [hb, bind, Except.bind] at h
  | ok b =>
    rw [hb] at h
    exact ⟨b, rfl, h⟩

/-! ## One addition -/

/-- A sum of decimals that has seen nothing. -/
def decimalSum (path : Option AttributePath) : Aggregator :=
  Catalog.fresh "big_decimal_sum" (.sum .bigDecimal) path

/-- A sum of decimals that has come to `d`. -/
def summed (path : Option AttributePath) (d : Decimal) : Aggregator :=
  reached "big_decimal_sum" (.sum .bigDecimal) path (.sum (.bigDecimal d))

/-- What an entry adds to a sum of decimals, in units of `10^-28`. -/
def addedUnits (path : Option AttributePath) (e : Entry) : Int :=
  match (e.extractOr path).getD .null with
  | .bigDecimal d => d.units
  | _ => 0

/-- The exact sum of entries. -/
def exactSum (path : Option AttributePath) (es : List Entry) : Int :=
  (es.map (addedUnits path)).sum

@[simp] theorem exactSum_nil : exactSum path [] = 0 := rfl

@[simp] theorem exactSum_cons :
    exactSum path (e :: es) = addedUnits path e + exactSum path es := by
  simp [exactSum]

@[simp] theorem exactSum_append {es' : List Entry} :
    exactSum path (es ++ es') = exactSum path es + exactSum path es' := by
  simp [exactSum]

/-- The sum that has come to `d` takes in `x`. -/
def added (path : Option AttributePath) (d x : Decimal) : Except GridError Aggregator :=
  (fun s => reached "big_decimal_sum" (.sum .bigDecimal) path (.sum s)) <$>
    RunningSum.addDecimals d x

theorem accumulate_summed {d x : Decimal} (h : (e.extractOr path).getD .null = .bigDecimal x) :
    (summed path d).accumulate e = added path d x := by
  rw [summed, accumulate_reached, h, stateAfter_sum, ← comp_map]
  rfl

theorem combine_summed (d x : Decimal) :
    (summed path d).combine (summed path x) = added path d x := by
  rw [summed, summed, combine_reached]
  simp only [joinStates, added, RunningSum.merge]
  cases RunningSum.addDecimals d x <;> rfl

/-- Only decimals are taken in. -/
theorem exists_of_accumulate_summed {d : Decimal} (h : (summed path d).accumulate e = .ok b) :
    ∃ x, (e.extractOr path).getD .null = .bigDecimal x := by
  rw [summed, accumulate_reached, stateAfter_sum] at h
  generalize (e.extractOr path).getD .null = v at h ⊢
  cases v with
  | bigDecimal x => exact ⟨x, rfl⟩
  | _ => cases h

theorem added_exact {d x : Decimal} (h : Representable (d.units + x.units)) :
    ∃ q, added path d x = .ok (summed path q) ∧ q.units = d.units + x.units := by
  obtain ⟨q, sum, exact⟩ := (add?_exact_iff d x).2 h
  refine ⟨q, ?_, exact⟩
  simp [added, RunningSum.addDecimals, sum]
  rfl

theorem added_near {d x : Decimal} (h : added path d x = .ok b) :
    ∃ q, b = summed path q ∧ 2 * (q.units - (d.units + x.units)).natAbs ≤ 10 ^ 28 := by
  unfold added RunningSum.addDecimals at h
  cases sum : d.add? x with
  | none => simp [sum, Functor.map, Except.map, throw, throwThe, MonadExceptOf.throw] at h
  | some q =>
    rw [sum] at h
    refine ⟨q, (Except.ok.inj h).symm, Nat.le_trans (two_mul_natAbs_sub_le_of_add? sum) ?_⟩
    exact Nat.pow_le_pow_right (by decide) (Nat.sub_le ..)

/-! ## Sums without a loss -/

/-- The sum has come to a decimal of `n` units. -/
def At (path : Option AttributePath) (n : Int) (a : Aggregator) : Prop :=
  ∃ d : Decimal, a = summed path d ∧ d.units = n

theorem at_decimalSum (path : Option AttributePath) : At path 0 (decimalSum path) :=
  ⟨.zero, rfl, units_zero⟩

theorem At.accumulate (h : At path n a) (value : ∃ x, (e.extractOr path).getD .null = .bigDecimal x)
    (room : Representable (n + addedUnits path e)) :
    ∃ b, a.accumulate e = .ok b ∧ At path (n + addedUnits path e) b := by
  obtain ⟨d, rfl, rfl⟩ := h
  obtain ⟨x, hx⟩ := value
  have units : addedUnits path e = x.units := by rw [addedUnits, hx]
  rw [units] at room ⊢
  obtain ⟨q, sum, exact⟩ := @added_exact path _ _ room
  exact ⟨summed path q, (accumulate_summed hx).trans sum, q, rfl, exact⟩

theorem At.combine (h : At path m a) (h' : At path n b) (room : Representable (m + n)) :
    ∃ c, a.combine b = .ok c ∧ At path (m + n) c := by
  obtain ⟨d, rfl, rfl⟩ := h
  obtain ⟨x, rfl, rfl⟩ := h'
  obtain ⟨q, sum, exact⟩ := @added_exact path _ _ room
  exact ⟨summed path q, (combine_summed d x).trans sum, q, rfl, exact⟩

theorem At.accumulateAll (h : At path n a)
    (values : ∀ e ∈ es, ∃ x, (e.extractOr path).getD .null = .bigDecimal x)
    (room : ∀ i, Representable (n + exactSum path (es.take i))) :
    ∃ b, a.accumulateAll es = .ok b ∧ At path (n + exactSum path es) b := by
  induction es generalizing n a with
  | nil => exact ⟨a, rfl, by simpa using h⟩
  | cons e es ih =>
    obtain ⟨b, hb, next⟩ := h.accumulate (values e (by simp)) (by simpa using room 1)
    obtain ⟨c, hc, done⟩ := ih next (fun e he => values e (by simp [he]))
      (fun i => by simpa [Int.add_assoc] using room (i + 1))
    refine ⟨c, ?_, by simpa [Int.add_assoc] using done⟩
    rw [Aggregator.accumulateAll, List.foldlM_cons, hb]
    exact hc

theorem At.combineAll {ps : List Aggregator} (h : At path n a)
    (each : parts.Forall₂ (fun es p => At path (exactSum path es) p) ps)
    (room : ∀ j, Representable (n + exactSum path (parts.take j).flatten)) :
    ∃ b, Executor.combineAll a ps = .ok b ∧ At path (n + exactSum path parts.flatten) b := by
  induction each generalizing n a with
  | nil => exact ⟨a, rfl, by simpa using h⟩
  | @cons es p parts ps first _ ih =>
    obtain ⟨b, hb, next⟩ := h.combine first (by simpa using room 1)
    obtain ⟨c, hc, done⟩ := ih next
      (fun j => by simpa [Int.add_assoc] using room (j + 1))
    refine ⟨c, ?_, by simpa [Int.add_assoc] using done⟩
    rw [Executor.combineAll, List.foldlM_cons, hb]
    exact hc

theorem mapM_at (values : ∀ es ∈ parts, ∀ e ∈ es, ∃ x, (e.extractOr path).getD .null = .bigDecimal x)
    (sums : ∀ es ∈ parts, ∀ i, Representable (exactSum path (es.take i))) :
    ∃ ps, parts.mapM (decimalSum path).accumulateAll = .ok ps ∧
      parts.Forall₂ (fun es p => At path (exactSum path es) p) ps := by
  induction parts with
  | nil => exact ⟨[], rfl, .nil⟩
  | cons es parts ih =>
    obtain ⟨p, hp, first⟩ := (at_decimalSum path).accumulateAll (values es (by simp))
      (fun i => by simpa using sums es (by simp) i)
    obtain ⟨ps, hps, rest⟩ := ih (fun es h => values es (by simp [h]))
      (fun es h => sums es (by simp [h]))
    refine ⟨p :: ps, ?_, .cons (by simpa using first) rest⟩
    rw [List.mapM_cons, hp, hps]
    rfl

theorem aggregateParts_at
    (values : ∀ es ∈ parts, ∀ e ∈ es, ∃ x, (e.extractOr path).getD .null = .bigDecimal x)
    (sums : ∀ es ∈ parts, ∀ i, Representable (exactSum path (es.take i)))
    (totals : ∀ j, Representable (exactSum path (parts.take j).flatten)) :
    ∃ a, aggregateParts (decimalSum path) parts = .ok a ∧
      At path (exactSum path parts.flatten) a := by
  obtain ⟨ps, hps, each⟩ := mapM_at values sums
  obtain ⟨a, ha, done⟩ := (at_decimalSum path).combineAll each (by simpa using totals)
  refine ⟨a, ?_, by simpa using done⟩
  rw [aggregateParts, hps]
  exact ha

/-! ## Short decimals -/

/-- The digits that an entry adds from the place `s` on. -/
def digits (path : Option AttributePath) (s : Nat) (e : Entry) : Nat :=
  match (e.extractOr path).getD .null with
  | .bigDecimal x => x.coefficient * 10 ^ (s - x.scale)
  | _ => 0

/-- An entry has a decimal without places after `s`. -/
def Places (path : Option AttributePath) (s : Nat) (e : Entry) : Prop :=
  ∃ x, (e.extractOr path).getD .null = .bigDecimal x ∧ x.scale ≤ s

theorem exists_exactSum_eq_mul {s : Nat} (hs : s ≤ 28) (places : ∀ e ∈ es, Places path s e) :
    ∃ m : Int, exactSum path es = m * (10 ^ (28 - s) : Nat) ∧
      m.natAbs ≤ (es.map (digits path s)).sum := by
  induction es with
  | nil => exact ⟨0, by simp, by simp⟩
  | cons e es ih =>
    obtain ⟨m, sum, le⟩ := ih fun e he => places e (by simp [he])
    obtain ⟨x, hx, scale⟩ := places e (by simp)
    have units : addedUnits path e = x.units := by rw [addedUnits, hx]
    have first : digits path s e = (x.signed * 10 ^ (s - x.scale)).natAbs := by
      rw [digits, hx, Int.natAbs_mul, natAbs_signed, Int.natAbs_pow]
      rfl
    refine ⟨x.signed * 10 ^ (s - x.scale) + m, ?_, ?_⟩
    · rw [exactSum_cons, units, sum, units_eq_mul scale hs, Int.add_mul]
    · rw [List.map_cons, List.sum_cons, first]
      omega

/-- Where all digits together fit, there is a decimal of the sum of some of the entries. -/
theorem representable_of_short {s : Nat} (hs : s ≤ 28) (places : ∀ e ∈ es, Places path s e)
    (short : (es.map (digits path s)).sum < 2 ^ 96) {part : List Entry} (h : part.Sublist es) :
    Representable (exactSum path part) := by
  obtain ⟨m, sum, le⟩ := exists_exactSum_eq_mul hs fun e he => places e (h.subset he)
  have fewer := (h.map (digits path s)).sum_le_sum fun _ _ => Nat.zero_le _
  refine ⟨⟨m < 0, m.natAbs, s, by omega, hs⟩, ?_⟩
  have sign : signed ⟨m < 0, m.natAbs, s, by omega, hs⟩ = m := by
    simp only [signed, decide_eq_true_eq]
    split <;> omega
  rw [units, sign, sum]
  rfl

/-- If the digits of all entries together fit, nothing is lost however the entries are split. -/
theorem decimalSum_exact_of_short {s : Nat} (hs : s ≤ 28)
    (places : ∀ e ∈ parts.flatten, Places path s e)
    (short : (parts.flatten.map (digits path s)).sum < 2 ^ 96) :
    ∃ a d, aggregateParts (decimalSum path) parts = .ok a ∧ a.result? = some (.bigDecimal d) ∧
      d.units = exactSum path parts.flatten := by
  have room {part : List Entry} (h : part.Sublist parts.flatten) :=
    representable_of_short hs places short h
  have values : ∀ es ∈ parts, ∀ e ∈ es, ∃ x, (e.extractOr path).getD .null = .bigDecimal x := by
    intro es hes e he
    obtain ⟨x, hx, -⟩ := places e (List.mem_flatten_of_mem hes he)
    exact ⟨x, hx⟩
  have sums : ∀ es ∈ parts, ∀ i, Representable (exactSum path (es.take i)) := by
    intro es hes i
    exact room ((List.take_sublist i es).trans (List.sublist_flatten_of_mem hes))
  obtain ⟨a, ha, d, rfl, exact⟩ :=
    aggregateParts_at values sums fun j => room (List.take_sublist j parts).flatten
  exact ⟨_, d, ha, rfl, exact⟩

/-! ## Entries in parts -/

/-- Decimals in parts lose nothing if there are decimals of the sums of the first entries of each
part, and of the sums of the first parts. Then no call fails, and the result is the exact sum. -/
theorem decimalSum_exact
    (values : ∀ es ∈ parts, ∀ e ∈ es, ∃ x, (e.extractOr path).getD .null = .bigDecimal x)
    (sums : ∀ es ∈ parts, ∀ i, Representable (exactSum path (es.take i)))
    (totals : ∀ j, Representable (exactSum path (parts.take j).flatten)) :
    ∃ a d, aggregateParts (decimalSum path) parts = .ok a ∧ a.result? = some (.bigDecimal d) ∧
      d.units = exactSum path parts.flatten := by
  obtain ⟨a, ha, d, rfl, exact⟩ := aggregateParts_at values sums totals
  exact ⟨_, d, ha, rfl, exact⟩

/-- Tenths in two parts. -/
theorem decimalSum_exact_tenths :
    let entry (c : Fin 10) : Entry := ⟨"k", .bigDecimal ⟨false, c, 1, by omega, by decide⟩⟩
    let parts := [[entry 1, entry 2], [entry 3]]
    ∃ a d, aggregateParts (decimalSum none) parts = .ok a ∧ a.result? = some (.bigDecimal d) ∧
      d.units = 6 * 10 ^ 27 := by
  intro entry parts
  have places : ∀ e ∈ parts.flatten, Places none 1 e := by
    intro e he
    obtain ⟨c, rfl⟩ : ∃ c, e = entry c := by
      simp only [parts, List.flatten_cons, List.flatten_nil, List.cons_append, List.nil_append,
        List.mem_cons, List.not_mem_nil, or_false] at he
      rcases he with rfl | rfl | rfl <;> exact ⟨_, rfl⟩
    exact ⟨_, rfl, Nat.le_refl 1⟩
  have room {part : List Entry} (h : part.Sublist parts.flatten) :=
    representable_of_short (by decide) places (by decide) h
  refine decimalSum_exact (fun es hes e he => ?_) (fun es hes i => ?_) (fun j => ?_)
  · obtain ⟨x, hx, -⟩ := places e (List.mem_flatten_of_mem hes he)
    exact ⟨x, hx⟩
  · exact room ((List.take_sublist i es).trans (List.sublist_flatten_of_mem hes))
  · exact room (List.take_sublist j parts).flatten

/-- Beside the largest coefficient there is no room for a tenth, which gets lost without an error. -/
theorem decimalSum_loses_tenth :
    let entry (s : Bool) (c scale : Nat) (hc : c < 2 ^ 96) (hs : scale ≤ 28) : Entry :=
      ⟨"k", .bigDecimal ⟨s, c, scale, hc, hs⟩⟩
    let es := [entry false (2 ^ 96 - 1) 0 (by decide) (by decide),
      entry false 1 1 (by decide) (by decide), entry true (2 ^ 96 - 1) 0 (by decide) (by decide)]
    ∃ a, aggregateParts (decimalSum none) [es] = .ok a ∧ a.result? = some (.bigDecimal .zero) ∧
      exactSum none es = 10 ^ 27 ∧ Decimal.zero.units ≠ 10 ^ 27 := by
  intro entry es
  exact ⟨summed none .zero, rfl, rfl, rfl, by decide⟩

/-! ## What an addition costs -/

/-- The sum has come to a decimal that is off from `n` units by `k` halves at most. -/
def Near (path : Option AttributePath) (n : Int) (k : Nat) (a : Aggregator) : Prop :=
  ∃ d : Decimal, a = summed path d ∧ 2 * (d.units - n).natAbs ≤ k * 10 ^ 28

theorem Near.accumulate (h : Near path n k a) (ok : a.accumulate e = .ok b) :
    Near path (n + addedUnits path e) (k + 1) b := by
  obtain ⟨d, rfl, off⟩ := h
  obtain ⟨x, hx⟩ := exists_of_accumulate_summed ok
  rw [accumulate_summed hx] at ok
  obtain ⟨q, rfl, off'⟩ := added_near ok
  have units : addedUnits path e = x.units := by rw [addedUnits, hx]
  exact ⟨q, rfl, by omega⟩

theorem Near.combine (h : Near path m k a) (h' : Near path n l b) (ok : a.combine b = .ok c) :
    Near path (m + n) (k + l + 1) c := by
  obtain ⟨d, rfl, off⟩ := h
  obtain ⟨x, rfl, off'⟩ := h'
  rw [combine_summed] at ok
  obtain ⟨q, rfl, off''⟩ := added_near ok
  exact ⟨q, rfl, by omega⟩

theorem Near.accumulateAll (h : Near path n k a) (ok : a.accumulateAll es = .ok b) :
    Near path (n + exactSum path es) (k + es.length) b := by
  induction es generalizing n k a with
  | nil =>
    cases ok
    simpa using h
  | cons e es ih =>
    rw [Aggregator.accumulateAll, List.foldlM_cons] at ok
    cases hb : a.accumulate e with
    | error error => simp [hb, bind, Except.bind] at ok
    | ok b' =>
      rw [hb] at ok
      have done := ih (h.accumulate hb) ok
      rw [exactSum_cons, ← Int.add_assoc]
      rwa [Nat.add_assoc, Nat.add_comm 1] at done

theorem Near.aggregateParts {ps : List Aggregator} (h : Near path n k a)
    (each : parts.mapM (decimalSum path).accumulateAll = .ok ps)
    (ok : Executor.combineAll a ps = .ok b) :
    Near path (n + exactSum path parts.flatten) (k + (parts.flatten.length + parts.length)) b := by
  induction parts generalizing n k a ps with
  | nil =>
    cases each
    cases ok
    simpa using h
  | cons es parts ih =>
    rw [List.mapM_cons] at each
    cases hp : (decimalSum path).accumulateAll es with
    | error error => simp [hp, bind, Except.bind] at each
    | ok p =>
      cases hps : parts.mapM (decimalSum path).accumulateAll with
      | error error => simp [hp, hps, bind, Except.bind] at each
      | ok rest =>
        simp only [hp, hps, bind, Except.bind, pure, Except.pure, Except.ok.injEq] at each
        subst each
        obtain ⟨a', joined, rest_ok⟩ := combineAll_cons_eq_ok ok
        have fresh : Near path 0 0 (decimalSum path) := ⟨.zero, rfl, by simp⟩
        have part := fresh.accumulateAll hp
        have done := ih (h.combine part joined) hps rest_ok
        rw [List.flatten_cons, exactSum_append, List.length_append, List.length_cons]
        convert done using 1 <;> omega

/-- Whatever is added, no addition costs more than half. -/
theorem decimalSum_near (ok : aggregateParts (decimalSum path) parts = .ok a) :
    ∃ d : Decimal, a.result? = some (.bigDecimal d) ∧
      2 * (d.units - exactSum path parts.flatten).natAbs ≤
        (parts.flatten.length + parts.length) * 10 ^ 28 := by
  unfold aggregateParts at ok
  cases hps : parts.mapM (decimalSum path).accumulateAll with
  | error error => simp [hps, bind, Except.bind] at ok
  | ok ps =>
    rw [hps] at ok
    have fresh : Near path 0 0 (decimalSum path) := ⟨.zero, rfl, by simp⟩
    obtain ⟨d, rfl, off⟩ := fresh.aggregateParts hps ok
    exact ⟨d, rfl, by simpa using off⟩

end Aggregator

end DataGrid
