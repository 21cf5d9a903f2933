import DataGrid.Proofs.Aggregate.Grouping
import Mathlib.Data.List.Induction

/-!
# First extrema

A minimum or maximum over a stream is the earliest value that no other value beats, in the form it
came in. Values that are not accepted or not of one kind make it fail, wherever they stand and in
whatever parts the stream is taken. Main statements: `offerAll_eq`, for a single pass, and
`run_extremum`, for any grouping.
-/

namespace DataGrid

/-- Whether `u` would replace `v` as the extremum. -/
def Extremum.beats (w : Extremum) (u v : Value) : Bool := (u.naturalCompare? v).any w.prefers

/-- Whether none of the values beats `v`. -/
def Extremum.isBest (w : Extremum) (vs : List Value) (v : Value) : Bool :=
  vs.all fun u => !w.beats u v

/-- The first of the values that none of them beats. -/
def Extremum.first? (w : Extremum) (vs : List Value) : Option Value := vs.find? (w.isBest vs)

/-- Whether an extremum over a domain takes a value; without a domain, whatever has an order and is
not null. -/
def Extremum.accepts (d : Option NumericDomain) (v : Value) : Bool :=
  match d with
  | some d => d.accepts v
  | none => v.kind != .null && v.kind != .list && v.kind != .object

/-- All values are accepted and of one kind. -/
def Extremum.Uniform (d : Option NumericDomain) (vs : List Value) : Prop :=
  (∀ v ∈ vs, accepts d v = true) ∧ ∀ u ∈ vs, ∀ v ∈ vs, u.kind = v.kind

namespace Extremum

variable {w : Extremum} {d : Option NumericDomain} {vs : List Value} {u v c : Value}

theorem kind_of_accepts (h : accepts d v = true) : v.kind ≠ .list ∧ v.kind ≠ .object := by
  cases d with
  | none => simp_all [accepts]
  | some d =>
    cases d <;> cases v <;>
      first | exact ⟨Value.Kind.noConfusion, Value.Kind.noConfusion⟩ | cases h

theorem uniform_concat : Uniform d (vs ++ [v]) ↔
    Uniform d vs ∧ accepts d v = true ∧ ∀ u ∈ vs, u.kind = v.kind := by
  constructor
  · intro h
    exact ⟨⟨fun u hu => h.1 u (by simp [hu]), fun u hu u' hu' => h.2 u (by simp [hu]) u' (by simp [hu'])⟩,
      h.1 v (by simp), fun u hu => h.2 u (by simp [hu]) v (by simp)⟩
  · rintro ⟨before, accepted, alike⟩
    have kind (u : Value) (hu : u ∈ vs ++ [v]) : u.kind = v.kind := by
      rcases List.mem_append.1 hu with old | new
      · exact alike u old
      · rw [List.mem_singleton.1 new]
    refine ⟨fun u hu => ?_, fun u hu u' hu' => (kind u hu).trans (kind u' hu').symm⟩
    rcases List.mem_append.1 hu with old | new
    · exact before.1 u old
    · exact List.mem_singleton.1 new ▸ accepted

theorem Uniform.exists_compare (h : Uniform d vs) (hu : u ∈ vs) (hv : v ∈ vs) :
    ∃ o, u.naturalCompare? v = some o :=
  Option.isSome_iff_exists.1
    (Value.isSome_naturalCompare?.2 ⟨h.2 u hu v hv, kind_of_accepts (h.1 u hu)⟩)

/-! ## The first best value -/

theorem not_beats_of_beats (h : w.beats v u = true) : w.beats u v = false := by
  have swap := Value.naturalCompare?_swap v u
  cases ho : v.naturalCompare? u with
  | none => simp [beats, ho] at h
  | some o => cases w <;> cases o <;> simp_all [beats, prefers]

theorem not_beats_self (w : Extremum) (v : Value) : w.beats v v = false :=
  Bool.eq_false_iff.2 fun h => absurd h (by simp [not_beats_of_beats h])

/-- What beats a value that `u` does not beat, beats `u`. -/
theorem beats_of_not_beats {p : Ordering} (hu : u.naturalCompare? c = some p)
    (better : w.beats v c = true) (worse : w.beats u c = false) : w.beats v u = true := by
  obtain ⟨o, hv, prefers_o⟩ := (Option.any_eq_true ..).1 better
  have back : c.naturalCompare? u = some p.swap := by rw [Value.naturalCompare?_swap, hu]; rfl
  obtain ⟨q, hq, up, down⟩ := Value.naturalCompare?_trans hv back
  simp only [beats, hu, hq, Option.any_some] at worse ⊢
  cases w with
  | min =>
    obtain rfl : o = .lt := by simpa [prefers] using prefers_o
    have above : p ≠ .lt := by simpa [prefers] using worse
    have below : q = .lt := up (by decide) (by cases p <;> simp_all)
    simp [below, prefers]
  | max =>
    obtain rfl : o = .gt := by simpa [prefers] using prefers_o
    have below : p ≠ .gt := by simpa [prefers] using worse
    have above : q = .gt := down (by decide) (by cases p <;> simp_all)
    simp [above, prefers]

theorem isBest_iff : w.isBest vs v = true ↔ ∀ u ∈ vs, w.beats u v = false := by
  simp [isBest]

theorem isBest_concat : w.isBest (vs ++ [u]) v = (w.isBest vs v && !w.beats u v) := by
  simp [isBest]

theorem first?_singleton (w : Extremum) (v : Value) : w.first? [v] = some v := by
  simp [first?, isBest, not_beats_self]

theorem mem_of_first? (h : w.first? vs = some c) : c ∈ vs := List.mem_of_find?_eq_some h

/-- One more value takes over if it beats the first best one of those before. -/
theorem first?_concat (h : Uniform d (vs ++ [v])) (hc : w.first? vs = some c) :
    w.first? (vs ++ [v]) = some (if w.beats v c then v else c) := by
  have mem := mem_of_first? hc
  obtain ⟨best, before, after, whole, earlier⟩ := List.find?_eq_some_iff_append.1 hc
  rw [isBest_iff] at best
  split
  · next better =>
    -- What beats the best of them beats each of them.
    have beaten : ∀ u ∈ vs, w.beats v u = true := fun u hu => by
      obtain ⟨p, hp⟩ := h.exists_compare (u := u) (v := c) (by simp [hu]) (by simp [mem])
      exact beats_of_not_beats hp better (best u hu)
    refine List.find?_eq_some_iff_append.2 ⟨?_, vs, [], rfl, fun u hu => ?_⟩
    · rw [isBest_concat, not_beats_self, Bool.not_false, Bool.and_true, isBest_iff]
      exact fun u hu => not_beats_of_beats (beaten u hu)
    · simp [isBest_concat, beaten u hu]
  · next worse =>
    refine List.find?_eq_some_iff_append.2 ⟨?_, before, after ++ [v], by simp [whole], fun u hu => ?_⟩
    · simpa [isBest_concat, worse] using isBest_iff.2 best
    · have lost : w.isBest vs u = false := by simpa using earlier u hu
      simp [isBest_concat, lost]

end Extremum

/-! ## A single pass -/

namespace Aggregator

open Extremum

variable {w : Extremum} {d : Option NumericDomain} {vs : List Value} {v : Value}

/-- The extremum after some more values. -/
def offerAll (w : Extremum) (d : Option NumericDomain) (current : Option Value)
    (vs : List Value) : Except GridError (Option Value) :=
  vs.foldlM (fun c v => checkComparable d v >>= fun _ => offer w c v) current

theorem offerAll_concat (w : Extremum) (d : Option NumericDomain) (c : Option Value)
    (vs : List Value) (v : Value) :
    offerAll w d c (vs ++ [v]) =
      offerAll w d c vs >>= fun c => checkComparable d v >>= fun _ => offer w c v := by
  simp [offerAll]

theorem checkComparable_of_accepts (h : accepts d v = true) : checkComparable d v = .ok () := by
  cases d with
  | none => cases v <;> first | rfl | cases h
  | some d => exact if_pos h

theorem checkComparable_of_not_accepts (h : accepts d v = false) :
    ∃ e, checkComparable d v = .error e := by
  cases d with
  | none => cases v <;> first | exact ⟨_, rfl⟩ | cases h
  | some d => exact ⟨_, if_neg (by simpa [accepts] using h)⟩

theorem offer_some {c : Value} {o : Ordering} (h : v.naturalCompare? c = some o) :
    offer w (some c) v = .ok (some (if w.beats v c then v else c)) := by
  simp only [offer, beats, h, Option.any_some]
  rfl

/-- Values that are accepted and of one kind have a first best one, and the fold finds it. -/
theorem offerAll_of_uniform (w : Extremum) (h : Uniform d vs) :
    offerAll w d none vs = .ok (w.first? vs) ∧ (vs ≠ [] → ∃ c, w.first? vs = some c) := by
  induction vs using List.reverseRecOn with
  | nil => exact ⟨rfl, fun ne => absurd rfl ne⟩
  | append_singleton vs v ih =>
    obtain ⟨before, accepted, -⟩ := uniform_concat.1 h
    obtain ⟨pass, found⟩ := ih before
    rw [offerAll_concat, pass, checkComparable_of_accepts accepted]
    change offer w (w.first? vs) v = _ ∧ _
    cases hc : w.first? vs with
    | none =>
      obtain rfl : vs = [] := by
        by_contra ne
        obtain ⟨c, some⟩ := found ne
        simp [hc] at some
      exact ⟨(congrArg Except.ok (first?_singleton w v)).symm, fun _ => ⟨v, first?_singleton w v⟩⟩
    | some c =>
      obtain ⟨o, ho⟩ := h.exists_compare (u := v) (v := c) (by simp) (by simp [mem_of_first? hc])
      rw [first?_concat h hc]
      exact ⟨offer_some ho, fun _ => ⟨_, rfl⟩⟩

theorem offerAll_of_not_uniform (w : Extremum) (h : ¬ Uniform d vs) :
    ∃ e, offerAll w d none vs = .error e := by
  induction vs using List.reverseRecOn with
  | nil => exact absurd ⟨by simp, by simp⟩ h
  | append_singleton vs v ih =>
    rw [offerAll_concat]
    by_cases before : Uniform d vs
    · obtain ⟨pass, found⟩ := offerAll_of_uniform w before
      rw [pass]
      cases accepted : accepts d v with
      | false =>
        obtain ⟨e, refused⟩ := checkComparable_of_not_accepts accepted
        exact ⟨e, by rw [refused]; rfl⟩
      | true =>
        rw [checkComparable_of_accepts accepted]
        -- Accepted as it is, the value is of another kind than those before.
        obtain ⟨u, hu, other⟩ : ∃ u ∈ vs, u.kind ≠ v.kind := by
          by_contra alike
          push Not at alike
          exact h (uniform_concat.2 ⟨before, accepted, alike⟩)
        obtain ⟨c, hc⟩ := found (List.ne_nil_of_mem hu)
        have apart : v.naturalCompare? c = none := by
          cases hv : v.naturalCompare? c with
          | none => rfl
          | some o =>
            have same := Value.kind_eq_of_naturalCompare? hv
            exact absurd ((before.2 u hu c (mem_of_first? hc)).trans same.symm) other
        exact ⟨.typeMismatch c.kind.name v.kind.name, by
          rw [hc]
          simp only [bind, Except.bind, offer, apart]
          rfl⟩
    · obtain ⟨e, failed⟩ := ih before
      exact ⟨e, by rw [failed]; rfl⟩

variable {name : String} {attr : Option AttributePath}

/-- A single pass of an extremum of the catalog. -/
theorem accumulateAll_extremum (name : String) (w : Extremum) (d : Option NumericDomain)
    (attr : Option AttributePath) (es : List Entry) :
    accumulateAll (Catalog.fresh name (.extremum w d) attr) es =
      (fun c => reached name (.extremum w d) attr (.extremum w c)) <$>
        offerAll w d none (es.map (Catalog.fresh name (.extremum w d) attr).valueOf) := by
  have fold (es : List Entry) (c : Option Value) :
      es.foldlM (fun q e => (reached name (.extremum w d) attr q).stateAfter
          ((e.extractOr attr).getD .null)) (AggregateState.extremum w c) =
        AggregateState.extremum w <$>
          offerAll w d c (es.map fun e => (e.extractOr attr).getD .null) := by
    induction es generalizing c with
    | nil => rfl
    | cons e es ih =>
      rw [List.foldlM_cons, stateAfter_extremum, bind_map_left, List.map_cons, offerAll,
        List.foldlM_cons, map_bind]
      simp only [ih]
      rfl
  have start : Catalog.fresh name (.extremum w d) attr =
      reached name (.extremum w d) attr (.extremum w none) := rfl
  rw [start, accumulateAll_reached, fold, ← comp_map]
  rfl

end Aggregator

/-! ## Groupings -/

namespace Grouping

open Aggregator Extremum

/-- A minimum or maximum of the catalog over a stream of entries, whatever parts the stream is split
into for fresh clones and however these are combined in order: it fails unless all values are
accepted and of one kind, and otherwise it is the first value that no other one beats, as it came
in, or null if there are none. -/
theorem run_extremum {name : String} {w : Extremum} {d : Option NumericDomain}
    {attr : Option String} {a : Aggregator}
    (known : Catalog.function? name = some (.extremum w d))
    (fresh : Catalog.aggregator name attr = .ok a) (g : Grouping) :
    let vs := g.entries.map a.valueOf
    ((∃ b, g.run a = .ok b) ↔
      (∀ v ∈ vs, accepts d v = true) ∧ ∀ u ∈ vs, ∀ v ∈ vs, u.kind = v.kind) ∧
    ∀ b, g.run a = .ok b →
      (vs = [] → b.result? = some .null) ∧
        (vs ≠ [] → ∃ v, b.result? = some v ∧ w.first? vs = some v) := by
  obtain ⟨path, rfl⟩ := Catalog.exists_eq_fresh known fresh
  intro vs
  have pass := accumulateAll_extremum name w d path g.entries
  by_cases uniform : Uniform d vs
  · obtain ⟨offers, found⟩ := offerAll_of_uniform w uniform
    change _ = _ <$> offerAll w d none vs at pass
    rw [offers] at pass
    have run := (run_eq_ok_iff rfl).2 pass
    refine ⟨⟨fun _ => uniform, fun _ => ⟨_, run⟩⟩, fun b hb => ?_⟩
    obtain rfl := Except.ok.inj (run.symm.trans hb)
    refine ⟨fun none => ?_, fun some => ?_⟩
    · rw [none]
      rfl
    · obtain ⟨c, hc⟩ := found some
      refine ⟨c, ?_, hc⟩
      rw [hc]
      rfl
  · obtain ⟨e, failed⟩ := offerAll_of_not_uniform w uniform
    change _ = _ <$> offerAll w d none vs at pass
    rw [failed] at pass
    have fails (b : Aggregator) : g.run (Catalog.fresh name (.extremum w d) path) ≠ .ok b := by
      rw [Ne, run_eq_ok_iff rfl, pass]
      exact nofun
    exact ⟨⟨fun ⟨b, ok⟩ => absurd ok (fails b), fun h => absurd h uniform⟩,
      fun b ok => absurd ok (fails b)⟩

/-- The greatest of decimals, of which two are equal in different forms, with a clone that gets
nothing. -/
theorem run_extremum_decimals :
    let tenths : Value := .bigDecimal ⟨false, 20, 1, by decide, by decide⟩
    let two : Value := .bigDecimal ⟨false, 2, 0, by decide, by decide⟩
    let one : Value := .bigDecimal ⟨false, 1, 0, by decide, by decide⟩
    let a := Catalog.fresh "comparable_max" (.extremum .max none) none
    let g := join (join (clone [⟨"a", one⟩, ⟨"b", tenths⟩]) (clone []))
      (clone [⟨"c", two⟩, ⟨"d", one⟩])
    ∃ b, g.run a = .ok b ∧ b.result? = some tenths := by
  intro tenths two one a g
  have known : Catalog.function? "comparable_max" = some (.extremum .max none) := rfl
  have fresh : Catalog.aggregator "comparable_max" none = .ok a := rfl
  obtain ⟨runs, first⟩ := run_extremum known fresh g
  obtain ⟨b, hb⟩ := runs.2 ⟨by decide, by decide⟩
  obtain ⟨v, result, found⟩ := (first b hb).2 (by simp [g, entries])
  obtain rfl : tenths = v := Option.some.inj found
  exact ⟨b, hb, result⟩

end Grouping

end DataGrid
