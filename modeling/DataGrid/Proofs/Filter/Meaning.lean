import DataGrid.Proofs.Filter.RoundTrip
import Mathlib.Data.String.Basic

/-!
# What a filter means after it has been sent

A filter that is written as JSON and read back compiles as it did before, and it accepts the same
entries if its literals mean the same where they stand. Which ones do is said for tests of equality
by `looseEq_reread_iff` and for comparisons by `compares_reread_iff`. Main statement:
`reread_accepts`.
-/

namespace DataGrid

namespace Value

open Binary64 (infinity)

variable {v w : Value} {x y : Binary64} {c : Comparison}

/-! ## Literals that are compared for equality -/

/-- A value that a test for equality may have for a literal. Integers of 32 bits come back as ones
of 64 bits, which only makes a difference inside of lists and objects. -/
def KeptInEqual (v : Value) : Prop := (∃ n, v = .int n) ∨ Kept v.parts

theorem reread_int (n : Int32) : (int n).reread = long n.toInt64 := by
  rw [← reread_long n.toInt64]
  simp [reread, toJson]

theorem compare?_int (w : Value) (n : Int32) :
    w.compare? (long n.toInt64) = w.compare? (int n) := by
  have numeric : (long n.toInt64).isNumeric = (int n).isNumeric := rfl
  unfold compare?
  rw [numeric]
  split
  · simp [numericCompare?, toDecimal?, toBinary?]
  · cases w <;> first | rfl | simp_all [isNumeric, kind, Kind.isNumeric]

theorem looseEq_int (w : Value) (n : Int32) : w.looseEq (long n.toInt64) = w.looseEq (int n) := by
  have numeric : (long n.toInt64).isNumeric = (int n).isNumeric := rfl
  unfold looseEq
  rw [numeric, compare?_int]
  split
  · rfl
  · cases w <;> first | rfl | simp_all [isNumeric, kind, Kind.isNumeric]

/-- A test for equality keeps its meaning for these literals, and for no others. -/
theorem looseEq_reread_iff :
    (∀ w : Value, w.looseEq v.reread = w.looseEq v) ↔ v.KeptInEqual := by
  constructor
  · intro same
    have own := same v.reread
    cases v with
    | int n => exact .inl ⟨n, rfl⟩
    | null | bool | text | long => exact .inr (by simp [Kept, parts, isKept])
    | double x =>
      cases finite : x.isFinite with
      | true => exact .inr (by simp [Kept, parts, isKept, finite])
      | false =>
        rw [reread_of_not_finite finite] at own
        cases own
    | bigInteger n =>
      have equal : (text (toString n)).beq (text (toString n)) = true := beq_refl _
      cases equal.symm.trans own
    | bigDecimal d =>
      have equal : (text d.render).beq (text d.render) = true := beq_refl _
      cases equal.symm.trans own
    | list vs =>
      have equal : (list vs).reread.beq (list vs).reread = true := beq_refl _
      exact .inr (kept_of_reread_beq (own.symm.trans equal))
    | object fs =>
      have equal : (object fs).reread.beq (object fs).reread = true := beq_refl _
      exact .inr (kept_of_reread_beq (own.symm.trans equal))
  · rintro (⟨n, rfl⟩ | kept) w
    · rw [reread_int, looseEq_int]
    · rw [reread_of_kept kept]

/-! ## Literals that bound a range -/

/-- Whether no value lies beyond a bound that is not finite. -/
def isOutOfReach : Comparison → Binary64 → Bool
  | .greater, x => x.isNaN || x == infinity false
  | .less, x => x.isNaN || x == infinity true
  | .greaterEqual, _ | .lessEqual, _ => false

/-- Whether a comparison may have the value for a bound. -/
def isKeptBound (c : Comparison) : Value → Bool
  | .bigInteger _ | .bigDecimal _ => false
  | .double x => x.isFinite || isOutOfReach c x
  | _ => true

theorem numericCompare?_of_not_finite (infinite : x.isFinite = false) (w : Value) :
    w.numericCompare? (double x) = w.toBinary?.bind (·.compare? x) := by
  have large : Binary64.edge ≤ x.magnitude := by
    have edge : Binary64.edge < Binary64.topMagnitude := by decide
    have top : ¬ x.magnitude < Binary64.topMagnitude := by simpa [Binary64.isFinite] using infinite
    omega
  have none : (double x).toDecimal? = none := Decimal.ofBinary?_eq_none large
  unfold numericCompare?
  rw [none]
  cases w.toDecimal? <;> rfl

theorem place_infinity (s : Bool) : (infinity s).place =
    if s then -(Binary64.topMagnitude : Int) else Binary64.topMagnitude := by
  rw [Binary64.place, infinity, Binary64.negative_pack _ _ Binary64.topMagnitude_lt,
    Binary64.magnitude_pack _ _ Binary64.topMagnitude_lt]

theorem compare?_of_isOutOfReach (far : isOutOfReach c x = true) (y : Binary64) :
    (y.compare? x).any c.accepts = false := by
  unfold Binary64.compare?
  split
  · rfl
  · next numbers =>
    rw [Bool.or_eq_true, not_or, Bool.not_eq_true, Bool.not_eq_true] at numbers
    have small : y.place.natAbs ≤ Binary64.topMagnitude := by
      rw [natAbs_place]
      simpa [Binary64.isNaN] using numbers.1
    rw [Option.any_some]
    cases c with
    | greater =>
      obtain rfl : x = infinity false := by simpa [isOutOfReach, numbers.2] using far
      have le : y.units ≤ (infinity false).units := by
        rw [Binary64.units_le_units, place_infinity]
        simp only [Bool.false_eq_true, if_false]
        omega
      simpa [Comparison.accepts] using compare_ne_gt.2 le
    | less =>
      obtain rfl : x = infinity true := by simpa [isOutOfReach, numbers.2] using far
      have le : (infinity true).units ≤ y.units := by
        rw [Binary64.units_le_units, place_infinity]
        simp only [if_true]
        omega
      simpa [Comparison.accepts, Int.compare_eq_lt] using le
    | greaterEqual | lessEqual => cases far

theorem compare?_double_of_not_numeric (other : w.isNumeric = false) (x : Binary64) :
    w.compare? (double x) = none := by
  cases w <;> first | rfl | cases other

theorem compares_of_isOutOfReach (infinite : x.isFinite = false) (far : isOutOfReach c x = true)
    (w : Value) : CompiledFilter.compares c (double x) w = false := by
  unfold CompiledFilter.compares
  cases numeric : w.isNumeric with
  | false => rw [compare?_double_of_not_numeric numeric]; rfl
  | true =>
    have double : (double x).isNumeric = true := rfl
    rw [compare?, numeric, double, Bool.and_self, if_pos rfl,
      numericCompare?_of_not_finite infinite]
    cases w.toBinary? with
    | none => rfl
    | some y => exact compare?_of_isOutOfReach far y

theorem compares_null (c : Comparison) (w : Value) :
    CompiledFilter.compares c .null w = true ↔ w = .null ∧ c.accepts .eq = true := by
  unfold CompiledFilter.compares
  cases w <;> simp [compare?, isNumeric, kind, Kind.isNumeric, naturalCompare?]

theorem eq_infinity (infinite : x.isFinite = false) (number : x.isNaN = false) :
    x = infinity x.negative := by
  have top : x.magnitude = Binary64.topMagnitude := by
    simp only [Binary64.isFinite, Binary64.isNaN, decide_eq_false_iff_not] at infinite number
    omega
  rw [infinity, ← top, ← Binary64.eq_pack]

/-- Where a bound that is not finite can be passed, it is not by null, or by a number. -/
theorem exists_compares_of_reached (infinite : x.isFinite = false)
    (reached : isOutOfReach c x = false) :
    ∃ w, CompiledFilter.compares c .null w ≠ CompiledFilter.compares c (double x) w := by
  cases c with
  | greaterEqual | lessEqual => exact ⟨.null, nofun⟩
  | greater =>
    obtain ⟨number, other⟩ := Bool.or_eq_false_iff.1 reached
    have same := eq_infinity infinite number
    cases sign : x.negative with
    | false =>
      rw [same, sign, beq_self_eq_true] at other
      cases other
    | true =>
      rw [same, sign]
      exact ⟨.long 0, by decide +kernel⟩
  | less =>
    obtain ⟨number, other⟩ := Bool.or_eq_false_iff.1 reached
    have same := eq_infinity infinite number
    cases sign : x.negative with
    | true =>
      rw [same, sign, beq_self_eq_true] at other
      cases other
    | false =>
      rw [same, sign]
      exact ⟨.long 0, by decide +kernel⟩

theorem lt_append_singleton (l : List Char) (a : Char) : l < l ++ [a] := by
  induction l with
  | nil => simp
  | cons c l ih => simp [ih]

/-- There are texts on both sides of one that is not empty. -/
theorem exists_compares_text {t : String} (h : t ≠ "") (c : Comparison) :
    ∃ s : String, CompiledFilter.compares c (.text t) (.text s) = true := by
  have order (s : String) : CompiledFilter.compares c (.text t) (.text s) =
      c.accepts (compare s t) := rfl
  simp only [order]
  cases c with
  | greaterEqual | lessEqual => exact ⟨t, by simp [Comparison.accepts]⟩
  | greater =>
    have above : t < t ++ "a" := by
      rw [String.lt_iff_toList_lt, String.toList_append]
      exact lt_append_singleton _ _
    exact ⟨t ++ "a", by simpa [Comparison.accepts] using compare_gt_iff_gt.2 above⟩
  | less =>
    have below : "" < t := by
      rw [String.lt_iff_toList_lt]
      cases chars : t.toList with
      | nil => exact absurd (String.toList_eq_nil_iff.1 chars) h
      | cons => exact List.nil_lt_cons _ _
    exact ⟨"", by simpa [Comparison.accepts] using compare_lt_iff_lt.2 below⟩

theorem not_compares_text (number : v.isNumeric = true) (c : Comparison) (s : String) :
    CompiledFilter.compares c v (.text s) = false := by
  cases v <;> first | rfl | cases number

theorem render_ne_empty (d : Decimal) : d.render ≠ "" := by
  have places (ds : List Char) :
      d.scale < (List.replicate (d.scale + 1 - ds.length) '0' ++ ds).length := by
    simp only [List.length_append, List.length_replicate]
    omega
  have whole {ds : List Char} (long : d.scale < ds.length) :
      ds.take (ds.length - d.scale) ≠ [] := by
    rw [← List.length_pos_iff, List.length_take]
    omega
  intro empty
  simp only [Decimal.render, String.append_eq_empty_iff] at empty
  exact whole (places _) (String.ofList_eq_empty_iff.1 empty.1.2)

/-- A comparison keeps its meaning for these bounds, and for no others. -/
theorem compares_reread_iff :
    (∀ w, CompiledFilter.compares c v.reread w = CompiledFilter.compares c v w) ↔
      v.isKeptBound c = true := by
  constructor
  · intro same
    cases v with
    | null | bool | text | long | int | list | object => rfl
    | double x =>
      cases finite : x.isFinite with
      | true => simp [isKeptBound, finite]
      | false =>
        cases far : isOutOfReach c x with
        | true => simp [isKeptBound, far]
        | false =>
          obtain ⟨w, differ⟩ := exists_compares_of_reached finite far
          rw [reread_of_not_finite finite] at same
          exact absurd (same w) differ
    | bigInteger n =>
      have digits : toString n ≠ "" := by cases n <;> simp [toString, Int.repr]
      obtain ⟨s, passes⟩ := exists_compares_text digits c
      cases (not_compares_text rfl c s).symm.trans ((same (.text s)).symm.trans passes)
    | bigDecimal d =>
      obtain ⟨s, passes⟩ := exists_compares_text (render_ne_empty d) c
      cases (not_compares_text rfl c s).symm.trans ((same (.text s)).symm.trans passes)
  · intro kept w
    cases v with
    | null | bool | text => rfl
    | int n => rw [reread_int, CompiledFilter.compares, compare?_int, CompiledFilter.compares]
    | long n => rw [reread_long]
    | double x =>
      cases finite : x.isFinite with
      | true => rw [reread_of_finite finite]
      | false =>
        have far : isOutOfReach c x = true := by simpa [isKeptBound, finite] using kept
        have strict : c.accepts .eq = false := by
          cases c <;> first | rfl | cases far
        rw [compares_of_isOutOfReach finite far, reread_of_not_finite finite, ← Bool.not_eq_true,
          compares_null]
        simp [strict]
    | bigInteger | bigDecimal => cases kept
    | list vs | object fs => cases w <;> rfl

end Value

/-! ## Compiled filters -/

namespace CompiledFilter

mutual

/-- The filter with the literals that come back of its own. -/
def reread : CompiledFilter → CompiledFilter
  | .always => .always
  | .equal p v => .equal p v.reread
  | .compare c p v => .compare c p v.reread
  | .between p low high => .between p low.reread high.reread
  | .oneOf p vs => .oneOf p (vs.map Value.reread)
  | .matching p q => .matching p q
  | .and fs => .and (rereadAll fs)
  | .or fs => .or (rereadAll fs)
  | .not f => .not f.reread

def rereadAll : List CompiledFilter → List CompiledFilter
  | [] => []
  | f :: r => f.reread :: rereadAll r

end

end CompiledFilter

namespace Filter

mutual

/-- Literals do not matter when a filter is compiled. -/
theorem compile_reread : ∀ f : Filter, f.reread.compile = f.compile.map CompiledFilter.reread
  | .always => rfl
  | .equal a v | .notEqual a v | .compare c a v | .between a low high | .oneOf a vs => by
    simp only [reread, compile]
    cases AttributePath.parse a <;> rfl
  | .like a p => by
    simp only [reread, compile]
    cases AttributePath.parse a with
    | error => rfl
    | ok => cases readPattern (Pattern.likeText p) (Pattern.like p).checkSize <;> rfl
  | .regex a p => by
    simp only [reread, compile]
    cases AttributePath.parse a with
    | error => rfl
    | ok => cases readPattern p (Pattern.parse p) <;> rfl
  | .and fs | .or fs => by
    simp only [reread, compile, compileAll_rereadAll fs]
    cases compileAll fs <;> rfl
  | .not f => by
    simp only [reread, compile, compile_reread f]
    cases f.compile <;> rfl

theorem compileAll_rereadAll : ∀ fs : List Filter,
    compileAll (rereadAll fs) = (compileAll fs).map CompiledFilter.rereadAll
  | [] => rfl
  | f :: r => by
    simp only [rereadAll, compileAll, compile_reread f, compileAll_rereadAll r]
    cases f.compile with
    | error => rfl
    | ok => cases compileAll r <;> rfl

end

mutual

/-- Every literal is one that the test it is part of may have. -/
def LiteralsKept : Filter → Prop
  | .always | .like _ _ | .regex _ _ => True
  | .equal _ v | .notEqual _ v => v.KeptInEqual
  | .compare c _ v => v.isKeptBound c = true
  | .between _ low high =>
    low.isKeptBound .greaterEqual = true ∧ high.isKeptBound .lessEqual = true
  | .oneOf _ vs => ∀ v ∈ vs, v.KeptInEqual
  | .and fs | .or fs => LiteralsKeptAll fs
  | .not f => f.LiteralsKept

def LiteralsKeptAll : List Filter → Prop
  | [] => True
  | f :: r => f.LiteralsKept ∧ LiteralsKeptAll r

end

theorem any_looseEq_reread {vs : List Value} (kept : ∀ v ∈ vs, v.KeptInEqual) (w : Value) :
    (vs.map Value.reread).any w.looseEq = vs.any w.looseEq := by
  induction vs with
  | nil => rfl
  | cons v vs ih =>
    obtain ⟨first, rest⟩ := List.forall_mem_cons.1 kept
    rw [List.map_cons, List.any_cons, List.any_cons, Value.looseEq_reread_iff.2 first w, ih rest]

theorem bind_eq_ok {ε α β : Type} {x : Except ε α} {f : α → Except ε β} {b : β}
    (h : x >>= f = .ok b) : ∃ a, x = .ok a ∧ f a = .ok b := by
  cases x with
  | error => cases h
  | ok a => exact ⟨a, rfl, h⟩

mutual

/-- A filter whose literals are kept accepts the same entries with what comes back of them. -/
theorem apply_reread : ∀ {f : Filter} {c : CompiledFilter}, f.LiteralsKept → f.compile = .ok c →
    ∀ e, c.reread.apply e = c.apply e
  | .always, _, _, compiled, _ => by
    cases compiled
    rfl
  | .equal a v, _, kept, compiled, _ | .notEqual a v, _, kept, compiled, _ => by
    rw [compile] at compiled
    obtain ⟨p, -, ⟨⟩⟩ := bind_eq_ok compiled
    simp only [CompiledFilter.reread, CompiledFilter.apply, Value.looseEq_reread_iff.2 kept]
  | .compare c a v, _, kept, compiled, _ => by
    rw [compile] at compiled
    obtain ⟨p, -, ⟨⟩⟩ := bind_eq_ok compiled
    have same := funext (Value.compares_reread_iff.2 kept)
    simp only [CompiledFilter.reread, CompiledFilter.apply, same]
  | .between a low high, _, kept, compiled, _ => by
    rw [compile] at compiled
    obtain ⟨p, -, ⟨⟩⟩ := bind_eq_ok compiled
    have lower := Value.compares_reread_iff.2 kept.1
    have upper := Value.compares_reread_iff.2 kept.2
    simp only [CompiledFilter.reread, CompiledFilter.apply, lower, upper]
  | .oneOf a vs, _, kept, compiled, _ => by
    rw [compile] at compiled
    obtain ⟨p, -, ⟨⟩⟩ := bind_eq_ok compiled
    simp only [CompiledFilter.reread, CompiledFilter.apply, any_looseEq_reread kept]
  | .like a p, _, _, compiled, _ | .regex a p, _, _, compiled, _ => by
    rw [compile] at compiled
    obtain ⟨q, -, compiled⟩ := bind_eq_ok compiled
    obtain ⟨r, -, ⟨⟩⟩ := bind_eq_ok compiled
    rfl
  | .and fs, _, kept, compiled, e => by
    rw [compile] at compiled
    obtain ⟨cs, all, ⟨⟩⟩ := bind_eq_ok compiled
    exact (applyAll_rereadAll kept all e).1
  | .or fs, _, kept, compiled, e => by
    rw [compile] at compiled
    obtain ⟨cs, all, ⟨⟩⟩ := bind_eq_ok compiled
    exact (applyAll_rereadAll kept all e).2
  | .not f, _, kept, compiled, e => by
    rw [compile] at compiled
    obtain ⟨c, inner, ⟨⟩⟩ := bind_eq_ok compiled
    exact congrArg Bool.not (apply_reread (f := f) kept inner e)

theorem applyAll_rereadAll : ∀ {fs : List Filter} {cs : List CompiledFilter}, LiteralsKeptAll fs →
    compileAll fs = .ok cs → ∀ e,
    CompiledFilter.applyAll e (CompiledFilter.rereadAll cs) = CompiledFilter.applyAll e cs ∧
      CompiledFilter.applyAny e (CompiledFilter.rereadAll cs) = CompiledFilter.applyAny e cs
  | [], _, _, compiled, _ => by
    cases compiled
    exact ⟨rfl, rfl⟩
  | f :: r, _, kept, compiled, e => by
    rw [compileAll] at compiled
    obtain ⟨c, first, compiled⟩ := bind_eq_ok compiled
    obtain ⟨cs, rest, ⟨⟩⟩ := bind_eq_ok compiled
    obtain ⟨all, any⟩ := applyAll_rereadAll kept.2 rest e
    have same := apply_reread kept.1 first e
    simp only [CompiledFilter.rereadAll, CompiledFilter.applyAll, CompiledFilter.applyAny, same,
      all, any, and_self]

end

/-- A filter that is written as JSON is read back as one that compiles like it, to the error, and
that accepts the same entries if every literal is one that the test it is part of may have. -/
theorem reread_accepts (f : Filter) (order : InOrder f.literals) :
    ∃ g, ofDocument (.ofJson f.toJson) = .ok g ∧
      (∀ x, g.compile = .error x ↔ f.compile = .error x) ∧
      (f.LiteralsKept → ∀ c d, f.compile = .ok c → g.compile = .ok d →
        ∀ e, d.apply e = c.apply e) := by
  refine ⟨f.reread, ofDocument_toJson f order, fun x => ?_, fun kept c d hc hd e => ?_⟩
  · rw [compile_reread]
    cases f.compile <;> simp [Except.map]
  · rw [compile_reread, hc] at hd
    cases hd
    exact apply_reread kept hc e

/-- Nested tests whose literals are kept: a small integer, a list as a bound, and one from which no
number is far enough up. -/
theorem reread_accepts_nested :
    let f : Filter := .and [.equal "this" (.int 5), .not (.compare .less "a" (.list [.int 1])),
      .or [.compare .greater "b" (.double (.infinity false)), .oneOf "c" [.object [("x", .null)]]]]
    InOrder f.literals ∧ f.LiteralsKept ∧ ∃ g, ofDocument (.ofJson f.toJson) = .ok g ∧
      ∀ c d, f.compile = .ok c → g.compile = .ok d → ∀ e, d.apply e = c.apply e := by
  intro f
  have order : InOrder f.literals := by
    simp [f, literals, literalsOfAll, InOrder, Value.InOrder, Value.parts, Value.partsOfItems,
      Value.partsOfFields, Fields.Ascending]
  have kept : f.LiteralsKept := by
    refine ⟨.inl ⟨5, rfl⟩, rfl, ⟨rfl, ?_, trivial⟩, trivial⟩
    rintro v (_ | ⟨_, ⟨⟩⟩)
    exact .inr (by decide)
  obtain ⟨g, read, -, same⟩ := reread_accepts f order
  exact ⟨order, kept, g, read, same kept⟩

/-- A big integer comes back as a text, to which no number is equal. -/
theorem reread_differs :
    ∃ c g d e, compile (.equal "this" (.bigInteger 5)) = .ok c ∧
      ofDocument (.ofJson (toJson (.equal "this" (.bigInteger 5)))) = .ok g ∧
      g.compile = .ok d ∧ c.apply e = true ∧ d.apply e = false :=
  ⟨.equal ⟨["this"]⟩ (.bigInteger 5), .equal "this" (.text "5"), .equal ⟨["this"]⟩ (.text "5"),
    ⟨"k", .long 5⟩, rfl, rfl, rfl, by decide, by decide⟩

end Filter

end DataGrid
