import DataGrid.Proofs.Aggregate.Combine

/-!
# How aggregators fail

The instances of one aggregator of the catalog take entries, and one another, in any order of calls.
What they have in hand keeps to their numeric domain, so a call fails only because of a value it
meets, or because a sum of decimals has no room. Main statement: `calls_fail_as_documented`.
-/

namespace DataGrid

/-! ## Domains -/

namespace NumericDomain

variable {d : NumericDomain} {v : Value}

theorem widen_of_accepts (h : d.accepts v = true) : ∃ a, d.widen v = .ok a := by
  rw [← widen?_isSome] at h
  obtain ⟨a, ha⟩ := Option.isSome_iff_exists.1 h
  exact ⟨a, by rw [widen, ha]; rfl⟩

theorem widen_of_not_accepts (h : d.accepts v = false) : d.widen v = .error (d.mismatch v) := by
  rw [← widen?_isSome, Option.isSome_eq_false_iff, Option.isNone_iff_eq_none] at h
  rw [widen, h]
  rfl

/-- The kind of value that a domain takes, if it takes values of one kind only. -/
def soleKind? : NumericDomain → Option Value.Kind
  | .integer => some .int
  | .long => some .long
  | .double => some .double
  | .bigInteger => some .bigInteger
  | .bigDecimal => some .bigDecimal
  | .fixedPoint | .floatingPoint | .number => none

theorem kind_of_accepts {k : Value.Kind} (sole : d.soleKind? = some k) (h : d.accepts v = true) :
    v.kind = k := by
  cases d <;> cases sole <;> exact of_decide_eq_true h

end NumericDomain

/-- Extrema and sums of a domain check a value alike. -/
theorem Aggregator.checkComparable_domain (d : NumericDomain) (v : Value) :
    checkComparable (some d) v = (d.widen v).map fun _ => () := by
  simp only [checkComparable]
  cases h : d.accepts v with
  | true =>
    obtain ⟨a, ha⟩ := NumericDomain.widen_of_accepts h
    rw [ha]
    rfl
  | false =>
    rw [NumericDomain.widen_of_not_accepts h]
    rfl

/-! ## Sums -/

/-- The addends of a domain. -/
def Addend.Suits : NumericDomain → Addend → Prop
  | .integer, .long _ | .long, .long _ | .fixedPoint, .long _ | .number, .long _ => True
  | .double, .double _ | .floatingPoint, .double _ | .number, .double _ => True
  | .bigInteger, .bigInteger _ | .bigDecimal, .bigDecimal _ => True
  | _, _ => False

/-- The sums of a domain. -/
def RunningSum.Suits : NumericDomain → RunningSum → Prop
  | .integer, .long _ | .long, .long _ | .fixedPoint, .long _ => True
  | .double, .double _ | .floatingPoint, .double _ => True
  | .bigInteger, .bigInteger _ | .bigDecimal, .bigDecimal _ | .number, .mixed .. => True
  | _, _ => False

theorem NumericDomain.suits_widen {d : NumericDomain} {v : Value} {a : Addend}
    (h : d.widen v = .ok a) : a.Suits d := by
  cases d <;> cases v <;> cases h <;> trivial

/-- The failure of a sum that has no room. -/
def GridError.overflow : GridError := .execution .sumOverflow

namespace RunningSum

variable {d : NumericDomain} {s t : RunningSum}

theorem suits_emptySum (d : NumericDomain) : Suits d d.emptySum := by cases d <;> trivial

/-- A sum of the domain, or the overflow of a decimal. -/
def Settles (d : NumericDomain) (x : Except GridError RunningSum) : Prop :=
  (∃ q, x = .ok q ∧ Suits d q) ∨ d = .bigDecimal ∧ x = .error .overflow

theorem settles_addDecimals (a b : Decimal) : Settles .bigDecimal (addDecimals a b) := by
  unfold addDecimals
  cases a.add? b with
  | some c => exact .inl ⟨.bigDecimal c, rfl, trivial⟩
  | none => exact .inr ⟨rfl, rfl⟩

theorem Suits.add (hs : Suits d s) {a : Addend} (ha : a.Suits d) : Settles d (s.add a) := by
  cases d <;> cases s <;> cases a <;>
    first | contradiction | exact .inl ⟨_, rfl, trivial⟩ | exact settles_addDecimals _ _

theorem Suits.merge (hs : Suits d s) (ht : Suits d t) : Settles d (s.merge t) := by
  cases d <;> cases s <;> cases t <;>
    first | contradiction | exact .inl ⟨_, rfl, trivial⟩ | exact settles_addDecimals _ _

theorem Suits.widen (hs : Suits d s) {v : Value} (h : d.accepts v = true) :
    Settles d (d.widen v >>= s.add) := by
  obtain ⟨a, ha⟩ := NumericDomain.widen_of_accepts h
  rw [ha]
  exact hs.add (NumericDomain.suits_widen ha)

end RunningSum

/-! ## States -/

/-- The states that an aggregator of the catalog comes to. -/
def AggregateState.Suits : AggregateFunction → AggregateState → Prop
  | .count, .count _ | .distinct, .distinct _ => True
  | .sum d, .sum s | .average d, .average s _ => s.Suits d
  | .extremum w d, .extremum v current =>
    v = w ∧ ∀ u, current = some u → Aggregator.checkComparable d u = .ok ()
  | _, _ => False

/-- Whether the numbers are added as decimals. -/
def AggregateFunction.AddsDecimals (f : AggregateFunction) : Prop :=
  f = .sum .bigDecimal ∨ f = .average .bigDecimal

/-- The failures a caller is told about: values of a wrong type, and sums without room. -/
def AggregateFunction.Admits (f : AggregateFunction) (e : GridError) : Prop :=
  (∃ expected actual, e = .typeMismatch expected actual) ∨ f.AddsDecimals ∧ e = .overflow

/-- What an aggregator would answer that has no domain, or something in hand that is not of it. -/
def GridError.IsDisorder : GridError → Prop
  | .execution (.cannotAdd ..) | .invalidRequest (.noDomain _) => True
  | .invalidRequest (.differentSums ..) | .invalidRequest (.differentStates ..) => True
  | _ => False

theorem AggregateFunction.Admits.not_isDisorder {f : AggregateFunction} {e : GridError}
    (h : f.Admits e) : ¬ e.IsDisorder := by
  rcases h with ⟨expected, actual, rfl⟩ | ⟨-, rfl⟩ <;> exact id

/-- An extremum with a domain takes values of one kind only. -/
def AggregateFunction.hasSoleKind : AggregateFunction → Bool
  | .extremum _ (some d) => d.soleKind?.isSome
  | _ => true

theorem Catalog.exists_soleKind {name : String} {w : Extremum} {d : NumericDomain}
    (known : function? name = some (.extremum w (some d))) : ∃ k, d.soleKind? = some k := by
  have listed : ∀ p ∈ functions, p.2.hasSoleKind = true := by decide
  obtain ⟨before, after, whole, -⟩ := List.lookup_eq_some_iff.1 known
  have mem : (name, AggregateFunction.extremum w (some d)) ∈ functions := by simp [whole]
  exact Option.isSome_iff_exists.1 (listed _ mem)

namespace Aggregator

variable {name : String} {f : AggregateFunction} {attr : Option AttributePath}
  {s t q : AggregateState}

theorem suits_start (f : AggregateFunction) : f.start.Suits f := by
  cases f with
  | count | distinct => trivial
  | sum d | average d => exact RunningSum.suits_emptySum d
  | extremum w d => exact ⟨rfl, nofun⟩

/-- An offer only fails because two values cannot be compared. -/
theorem offer_cases (w : Extremum) (current : Option Value) (v : Value) :
    (∃ r, offer w current v = .ok r) ∨
      ∃ c, current = some c ∧ v.naturalCompare? c = none ∧
        offer w current v = .error (.typeMismatch c.kind.name v.kind.name) := by
  cases current with
  | none => exact .inl ⟨some v, rfl⟩
  | some c =>
    cases h : v.naturalCompare? c with
    | none => exact .inr ⟨c, rfl, h, by simp only [offer, h]; rfl⟩
    | some o => exact .inl ⟨some (if w.prefers o then v else c), by simp only [offer, h]; rfl⟩

/-- What is kept is the candidate or what was there. -/
theorem mem_offer {w : Extremum} {current r : Option Value} {u v : Value}
    (h : offer w current v = .ok r) (hu : r = some u) : u = v ∨ current = some u := by
  subst hu
  cases current with
  | none =>
    cases h
    exact .inl rfl
  | some c =>
    simp only [offer] at h
    split at h
    · cases h
    · obtain rfl := Option.some.inj (Except.ok.inj h)
      split
      · exact .inl rfl
      · exact .inr rfl

/-- Where a domain takes one kind only, what it takes can be compared. -/
theorem naturalCompare?_ne_none {d : NumericDomain} {k : Value.Kind}
    (sole : d.soleKind? = some k) {u v : Value} (hu : checkComparable (some d) u = .ok ())
    (hv : d.accepts v = true) : v.naturalCompare? u ≠ none := by
  have accepted : d.accepts u = true := by
    cases h : d.accepts u with
    | true => rfl
    | false => simp [checkComparable_domain, NumericDomain.widen_of_not_accepts h, Except.map] at hu
  have number : k ≠ .list ∧ k ≠ .object := by cases d <;> cases sole <;> decide
  rw [← Option.isSome_iff_ne_none, Value.isSome_naturalCompare?,
    NumericDomain.kind_of_accepts sole hv, NumericDomain.kind_of_accepts sole accepted]
  exact ⟨rfl, number⟩

/-- A state that suits the aggregator, or the overflow of a decimal. -/
def Settles (f : AggregateFunction) (x : Except GridError AggregateState) : Prop :=
  (∃ q, x = .ok q ∧ q.Suits f) ∨ f.AddsDecimals ∧ x = .error .overflow

/-- A state that suits the aggregator, or a failure that a caller is told about. -/
def Ends (f : AggregateFunction) (x : Except GridError AggregateState) : Prop :=
  (∃ q, x = .ok q ∧ q.Suits f) ∨ ∃ e, x = .error e ∧ f.Admits e

theorem Settles.ends {x : Except GridError AggregateState} (h : Settles f x) : Ends f x := by
  rcases h with ok | ⟨adds, error⟩
  · exact .inl ok
  · exact .inr ⟨_, error, .inr ⟨adds, rfl⟩⟩

theorem settles_sum {d : NumericDomain} {x : Except GridError RunningSum}
    (h : RunningSum.Settles d x) : Settles (.sum d) (AggregateState.sum <$> x) := by
  rcases h with ⟨q, rfl, suits⟩ | ⟨rfl, rfl⟩
  · exact .inl ⟨.sum q, rfl, suits⟩
  · exact .inr ⟨.inl rfl, rfl⟩

theorem settles_average {d : NumericDomain} {x : Except GridError RunningSum} (n : UInt64)
    (h : RunningSum.Settles d x) : Settles (.average d) ((AggregateState.average · n) <$> x) := by
  rcases h with ⟨q, rfl, suits⟩ | ⟨rfl, rfl⟩
  · exact .inl ⟨.average q n, rfl, suits⟩
  · exact .inr ⟨.inr rfl, rfl⟩

theorem suits_offer {w : Extremum} {d : Option NumericDomain} {current r : Option Value} {v : Value}
    (kept : ∀ u, current = some u → checkComparable d u = .ok ())
    (hv : checkComparable d v = .ok ()) (h : offer w current v = .ok r) :
    (AggregateState.extremum w r).Suits (.extremum w d) := by
  refine ⟨rfl, fun u hu => ?_⟩
  rcases mem_offer h hu with rfl | old
  · exact hv
  · exact kept u old

theorem ends_offer {w : Extremum} {d : Option NumericDomain} {current : Option Value} {v : Value}
    (kept : ∀ u, current = some u → checkComparable d u = .ok ())
    (hv : checkComparable d v = .ok ()) :
    Ends (.extremum w d) (AggregateState.extremum w <$> offer w current v) := by
  rcases offer_cases w current v with ⟨r, hr⟩ | ⟨c, -, -, error⟩
  · exact .inl ⟨.extremum w r, by rw [hr]; rfl, suits_offer kept hv hr⟩
  · exact .inr ⟨_, by rw [error]; rfl, .inl ⟨_, _, rfl⟩⟩

section Domain

variable {d : NumericDomain} {v : Value}

/-- A value that the domain takes only fails to be added for want of room. -/
theorem settles_stateAfter (known : Catalog.function? name = some f) (hs : s.Suits f)
    (hd : f.domain = some d) (h : d.accepts v = true) :
    Settles f ((reached name f attr s).stateAfter v) := by
  match f, s, hs, hd with
  | .sum _, .sum s, hs, rfl =>
    rw [stateAfter_sum]
    exact settles_sum (hs.widen h)
  | .average _, .average s n, hs, rfl =>
    rw [stateAfter_average]
    exact settles_average (n + 1) (hs.widen h)
  | .extremum w (some _), .extremum _ current, ⟨rfl, kept⟩, rfl =>
    obtain ⟨k, sole⟩ := Catalog.exists_soleKind known
    obtain ⟨a, ha⟩ := NumericDomain.widen_of_accepts h
    have passed : checkComparable (some d) v = .ok () := by rw [checkComparable_domain, ha]; rfl
    rw [stateAfter_extremum, passed]
    change Settles _ (AggregateState.extremum w <$> offer w current v)
    rcases offer_cases w current v with ⟨r, hr⟩ | ⟨c, hc, apart, -⟩
    · rw [hr]
      exact .inl ⟨.extremum w r, rfl, suits_offer kept passed hr⟩
    · exact absurd apart (naturalCompare?_ne_none sole (kept c hc) h)

/-- Any other value is a mismatch. -/
theorem stateAfter_of_not_accepts (hs : s.Suits f) (hd : f.domain = some d)
    (h : d.accepts v = false) :
    (reached name f attr s).stateAfter v = .error (d.mismatch v) := by
  have refused := NumericDomain.widen_of_not_accepts h
  match f, s, hs, hd with
  | .sum _, .sum s, _, rfl =>
    rw [stateAfter_sum, refused]
    rfl
  | .average _, .average s n, _, rfl =>
    rw [stateAfter_average, refused]
    rfl
  | .extremum w (some _), .extremum _ current, ⟨rfl, _⟩, rfl =>
    rw [stateAfter_extremum, checkComparable_domain, refused]
    rfl

end Domain

theorem ends_stateAfter (known : Catalog.function? name = some f) (hs : s.Suits f) (v : Value) :
    Ends f ((reached name f attr s).stateAfter v) := by
  cases hd : f.domain with
  | some d =>
    cases h : d.accepts v with
    | true => exact (settles_stateAfter known hs hd h).ends
    | false => exact .inr ⟨_, stateAfter_of_not_accepts hs hd h, .inl ⟨_, _, rfl⟩⟩
  | none =>
    cases f with
    | sum d | average d => cases hd
    | count =>
      match s, hs with
      | .count n, _ => exact .inl ⟨.count (n + 1), rfl, trivial⟩
    | distinct =>
      match s, hs with
      | .distinct vs, _ => exact .inl ⟨.distinct (insertDistinct vs v), rfl, trivial⟩
    | extremum w d =>
      obtain rfl : d = none := hd
      match s, hs with
      | .extremum _ current, ⟨rfl, kept⟩ =>
        rw [stateAfter_extremum]
        cases hv : checkComparable none v with
        | ok => exact ends_offer kept hv
        | error e =>
          have refused : e = .typeMismatch "comparable" v.kind.name := by
            cases v <;> cases hv <;> rfl
          exact .inr ⟨e, rfl, .inl ⟨_, _, refused⟩⟩

theorem ends_joinStates (hs : s.Suits f) (ht : t.Suits f) : Ends f (joinStates s t) := by
  cases f with
  | count =>
    match s, hs, t, ht with
    | .count m, _, .count n, _ => exact .inl ⟨.count (m + n), rfl, trivial⟩
  | distinct =>
    match s, hs, t, ht with
    | .distinct vs, _, .distinct ws, _ =>
      exact .inl ⟨.distinct (ws.foldl insertDistinct vs), rfl, trivial⟩
  | sum d =>
    match s, hs, t, ht with
    | .sum s, hs, .sum t, ht => exact (settles_sum (hs.merge ht)).ends
  | average d =>
    match s, hs, t, ht with
    | .average s m, hs, .average t n, ht => exact (settles_average (m + n) (hs.merge ht)).ends
  | extremum w d =>
    match s, hs, t, ht with
    | .extremum _ current, ⟨rfl, kept⟩, .extremum _ none, ⟨rfl, _⟩ =>
      exact .inl ⟨.extremum w current, rfl, rfl, kept⟩
    | .extremum _ current, ⟨rfl, kept⟩, .extremum _ (some v), ⟨rfl, kept'⟩ =>
      exact ends_offer kept (kept' v rfl)

/-! ## Calls -/

/-- A call on instances of one aggregator, which are numbered. -/
inductive Call where
  | accumulate (i : Nat) (e : Entry)
  /-- The instance `i` takes in the instance `j`. -/
  | combine (i j : Nat)

/-- What a call comes to, if there are the instances it is made on. -/
def outcome? (as : List Aggregator) : Call → Option (Except GridError Aggregator)
  | .accumulate i e => as[i]?.map (·.accumulate e)
  | .combine i j =>
    match as[i]?, as[j]? with
    | some a, some b => some (a.combine b)
    | _, _ => none

/-- A call that fails leaves all instances as they are. -/
def call (as : List Aggregator) (c : Call) : List Aggregator :=
  match c, outcome? as c with
  | .accumulate i _, some (.ok a) | .combine i _, some (.ok a) => as.set i a
  | _, _ => as

/-- An instance with something in hand that suits it. -/
def Instance (name : String) (f : AggregateFunction) (a : Aggregator) : Prop :=
  ∃ attr s, a = reached name f attr s ∧ s.Suits f

variable {a b : Aggregator} {as : List Aggregator} {e : Entry}

theorem instance_of_ends {x : Except GridError AggregateState} (h : Ends f x) :
    (∃ b, reached name f attr <$> x = .ok b ∧ Instance name f b) ∨
      ∃ e, reached name f attr <$> x = .error e ∧ f.Admits e := by
  rcases h with ⟨q, rfl, suits⟩ | ⟨e, rfl, admitted⟩
  · exact .inl ⟨_, rfl, attr, q, rfl, suits⟩
  · exact .inr ⟨e, rfl, admitted⟩

theorem Instance.accumulate (known : Catalog.function? name = some f) (h : Instance name f a)
    (e : Entry) :
    (∃ b, a.accumulate e = .ok b ∧ Instance name f b) ∨
      ∃ error, a.accumulate e = .error error ∧ f.Admits error := by
  obtain ⟨attr, s, rfl, suits⟩ := h
  rw [accumulate_reached]
  exact instance_of_ends (ends_stateAfter known suits _)

theorem Instance.combine (h : Instance name f a) (k : Instance name f b) :
    (∃ c, a.combine b = .ok c ∧ Instance name f c) ∨
      ∃ error, a.combine b = .error error ∧ f.Admits error := by
  obtain ⟨attr, s, rfl, suits⟩ := h
  obtain ⟨attr', t, rfl, suits'⟩ := k
  rw [combine_reached]
  exact instance_of_ends (ends_joinStates suits suits')

/-- A call ends with an instance again or with a failure that callers are told about. -/
theorem outcome_of_instances (known : Catalog.function? name = some f)
    (h : ∀ a ∈ as, Instance name f a) {c : Call} {x : Except GridError Aggregator}
    (hx : outcome? as c = some x) :
    (∃ b, x = .ok b ∧ Instance name f b) ∨ ∃ error, x = .error error ∧ f.Admits error := by
  cases c with
  | accumulate i e =>
    obtain ⟨a, ha, rfl⟩ := Option.map_eq_some_iff.1 hx
    exact (h a (List.mem_of_getElem? ha)).accumulate known e
  | combine i j =>
    simp only [outcome?] at hx
    split at hx
    · next a b ha hb =>
      obtain rfl := Option.some.inj hx
      exact (h a (List.mem_of_getElem? ha)).combine (h b (List.mem_of_getElem? hb))
    · cases hx

theorem instances_call (known : Catalog.function? name = some f)
    (h : ∀ a ∈ as, Instance name f a) (c : Call) : ∀ a ∈ call as c, Instance name f a := by
  unfold call
  split
  case h_3 => exact h
  all_goals
    next called =>
    intro a ha
    rcases List.mem_or_eq_of_mem_set ha with old | rfl
    · exact h a old
    · rcases outcome_of_instances known h called with ⟨b, e, suits⟩ | ⟨error, e, -⟩
      · exact Except.ok.inj e ▸ suits
      · cases e

theorem instances_calls (known : Catalog.function? name = some f)
    (h : ∀ a ∈ as, Instance name f a) (cs : List Call) :
    ∀ a ∈ cs.foldl call as, Instance name f a := by
  induction cs generalizing as with
  | nil => exact h
  | cons c cs ih => exact ih (instances_call known h c)

theorem instance_fresh (known : Catalog.function? name = some f) {attr : Option String}
    (fresh : Catalog.aggregator name attr = .ok a) : Instance name f a := by
  obtain ⟨path, rfl⟩ := Catalog.exists_eq_fresh known fresh
  exact ⟨path, f.start, rfl, suits_start f⟩

/-- Fresh instances of one name of the catalog, with any attributes, are called in any order. Then an
instance with a numeric domain takes an entry if the domain takes its value, but for the overflow of
decimals, and otherwise tells the type that is expected from the one that is there; extrema and sums
check alike; and no call fails because of what the instances have in hand. -/
theorem calls_fail_as_documented (known : Catalog.function? name = some f)
    (fresh : ∀ a ∈ as, ∃ attr, Catalog.aggregator name attr = .ok a) (cs : List Call) :
    let bs := cs.foldl call as
    (∀ a ∈ bs, ∀ d, a.domain = some d → ∀ e : Entry,
      let v := (e.extractOr a.attr).getD .null
      (d.accepts v = true →
        (∃ b, a.accumulate e = .ok b) ∨ f.AddsDecimals ∧ a.accumulate e = .error .overflow) ∧
      (d.accepts v = false →
        a.accumulate e = .error (.typeMismatch d.expected v.kind.name))) ∧
    (∀ d v, checkComparable (some d) v = (d.widen v).map fun _ => ()) ∧
    ∀ c error, outcome? bs c = some (.error error) → f.Admits error ∧ ¬ error.IsDisorder := by
  intro bs
  have instances : ∀ a ∈ bs, Instance name f a := by
    refine instances_calls known (fun a ha => ?_) cs
    obtain ⟨attr, ha⟩ := fresh a ha
    exact instance_fresh known ha
  refine ⟨fun a ha d hd e => ?_, checkComparable_domain, fun c error failed => ?_⟩
  · obtain ⟨attr, s, rfl, suits⟩ := instances a ha
    intro v
    have step : (reached name f attr s).accumulate e =
        reached name f attr <$> (reached name f attr s).stateAfter v := accumulate_reached s e
    rw [step]
    refine ⟨fun accepted => ?_, fun refused => ?_⟩
    · rcases settles_stateAfter known suits hd accepted with ⟨q, hq, -⟩ | ⟨adds, overflow⟩
      · rw [hq]
        exact .inl ⟨reached name f attr q, rfl⟩
      · rw [overflow]
        exact .inr ⟨adds, rfl⟩
    · rw [stateAfter_of_not_accepts suits hd refused]
      rfl
  · rcases outcome_of_instances known instances failed with ⟨b, e, -⟩ | ⟨_, e, admitted⟩
    · cases e
    · obtain rfl := Except.error.inj e
      exact ⟨admitted, admitted.not_isDisorder⟩

/-- A mean of integers of two instances, of which one has met an entry without its attribute. -/
theorem calls_fail_as_documented_mean :
    let a := Catalog.fresh "integer_avg" (.average .integer) none
    let b := Catalog.fresh "integer_avg" (.average .integer) (some ⟨["n"]⟩)
    let cs : List Call :=
      [.accumulate 0 ⟨"k", .int 1⟩, .accumulate 1 ⟨"k", .int 2⟩, .combine 1 0]
    let c := { b with state := .average (.long 1) 1 }
    cs.foldl call [a, b] = [{ a with state := .average (.long 1) 1 }, c] ∧
      c.accumulate ⟨"k", .object [("n", .text "x")]⟩ = .error (.typeMismatch "int" "text") := by
  intro a b cs c
  have run : cs.foldl call [a, b] = [{ a with state := .average (.long 1) 1 }, c] := rfl
  have fresh : ∀ x ∈ [a, b], ∃ attr, Catalog.aggregator "integer_avg" attr = .ok x := by
    intro x hx
    rcases List.mem_cons.1 hx with rfl | hx
    · exact ⟨none, rfl⟩
    · obtain rfl := List.mem_singleton.1 hx
      exact ⟨some "n", rfl⟩
  have known : Catalog.function? "integer_avg" = some (.average .integer) := rfl
  obtain ⟨told, -, -⟩ := calls_fail_as_documented known fresh cs
  exact ⟨run, (told c (by rw [run]; simp) .integer rfl _).2 rfl⟩

end Aggregator

end DataGrid
