import DataGrid.Proofs.Filter.Like
import DataGrid.Proofs.Pattern.Oversized

/-!
# Defects of filters

The leaves of a filter are its tests of attributes, at any depth, in reading order. A filter
compiles if all of its leaves are sound; otherwise the error is that of the first leaf that is not,
and in it a bad attribute comes before a bad pattern. What comes out passes just the entries that
the filter says. Main statement: `compile_leftmost`.
-/

namespace DataGrid.Filter

/-! ## Leaves -/

mutual

/-- The tests at the ends of a filter, in reading order. -/
def leaves : Filter → List Filter
  | .and fs | .or fs => leavesOfAll fs
  | .not f => f.leaves
  | f => [f]

def leavesOfAll : List Filter → List Filter
  | [] => []
  | f :: r => f.leaves ++ leavesOfAll r

end

/-- The attribute that a leaf tests. -/
def attr? : Filter → Option String
  | .equal a _ | .notEqual a _ | .compare _ a _ | .between a _ _ | .oneOf a _ | .like a _
  | .regex a _ => some a
  | _ => none

/-- The regular expression that a leaf tests with. -/
def expression? : Filter → Option String
  | .like _ p => some (Pattern.likeText p)
  | .regex _ p => some p
  | _ => none

/-- The attribute of a leaf, if it tests one, is a path. -/
def HasPath (f : Filter) : Prop := ∀ a ∈ f.attr?, ∃ path, AttributePath.parse a = .ok path

/-- Nothing is wrong with a leaf. -/
structure Sound (f : Filter) : Prop where
  path : f.HasPath
  pattern : ∀ s ∈ f.expression?, ∃ q, Pattern.parse s = .ok q

/-- What is wrong with a leaf: its attribute, or else its regular expression. -/
inductive Defect (f : Filter) : GridError → Prop
  | path {a : String} {x : GridError} (tests : f.attr? = some a)
      (bad : AttributePath.parse a = .error x) : Defect f x
  | malformed {s : String} (path : f.HasPath) (tests : f.expression? = some s)
      (bad : Pattern.parse s = .error .malformed) : Defect f (.invalidRequest (.badPattern s))
  | oversized {s : String} (path : f.HasPath) (tests : f.expression? = some s)
      (bad : Pattern.parse s = .error .oversized) :
      Defect f (.invalidRequest (.oversizedPattern s Pattern.sizeLimit))

/-- The error of the first leaf that is not sound. -/
inductive FirstDefect : List Filter → GridError → Prop
  | here {f : Filter} {r : List Filter} {x : GridError} : f.Defect x → FirstDefect (f :: r) x
  | later {f : Filter} {r : List Filter} {x : GridError} :
      f.Sound → FirstDefect r x → FirstDefect (f :: r) x

variable {f : Filter} {fs ls ms : List Filter} {x : GridError} {a p : String}

theorem sound_or_defect (f : Filter) : f.Sound ∨ ∃ x, f.Defect x := by
  by_cases path : f.HasPath
  · cases tests : f.expression? with
    | none => exact .inl ⟨path, by simp [tests]⟩
    | some s =>
      cases read : Pattern.parse s with
      | ok q => exact .inl ⟨path, by simp [tests, read]⟩
      | error fault =>
        cases fault with
        | malformed => exact .inr ⟨_, .malformed path tests read⟩
        | oversized => exact .inr ⟨_, .oversized path tests read⟩
  · simp only [HasPath, not_forall, not_exists] at path
    obtain ⟨a, tests, bad⟩ := path
    cases read : AttributePath.parse a with
    | ok path => exact absurd read (bad path)
    | error x => exact .inr ⟨x, .path tests read⟩

theorem sound_or_firstDefect (ls : List Filter) : (∀ l ∈ ls, l.Sound) ∨ ∃ x, FirstDefect ls x := by
  induction ls with
  | nil => exact .inl nofun
  | cons l ls ih =>
    rcases sound_or_defect l with sound | ⟨x, defect⟩
    · rcases ih with rest | ⟨x, rest⟩
      · exact .inl (List.forall_mem_cons.2 ⟨sound, rest⟩)
      · exact .inr ⟨x, .later sound rest⟩
    · exact .inr ⟨x, .here defect⟩

theorem firstDefect_append :
    FirstDefect (ls ++ ms) x ↔ FirstDefect ls x ∨ (∀ l ∈ ls, l.Sound) ∧ FirstDefect ms x := by
  induction ls with
  | nil => exact ⟨fun h => .inr ⟨nofun, h⟩, fun h => h.elim nofun (·.2)⟩
  | cons l ls ih =>
    rw [List.cons_append, List.forall_mem_cons]
    constructor
    · rintro (defect | ⟨sound, rest⟩)
      · exact .inl (.here defect)
      · exact (ih.1 rest).imp (.later sound) fun ⟨all, rest⟩ => ⟨⟨sound, all⟩, rest⟩
    · rintro ((defect | ⟨sound, rest⟩) | ⟨⟨sound, all⟩, rest⟩)
      · exact .here defect
      · exact .later sound (ih.2 (.inl rest))
      · exact .later sound (ih.2 (.inr ⟨all, rest⟩))

theorem firstDefect_iff : FirstDefect ls x ↔
    ∃ before l after, ls = before ++ l :: after ∧ (∀ k ∈ before, k.Sound) ∧ l.Defect x := by
  constructor
  · intro first
    induction first with
    | here defect => exact ⟨[], _, _, rfl, nofun, defect⟩
    | @later f _ _ sound _ ih =>
      obtain ⟨before, l, after, rfl, all, defect⟩ := ih
      exact ⟨f :: before, l, after, rfl, List.forall_mem_cons.2 ⟨sound, all⟩, defect⟩
  · rintro ⟨before, l, after, rfl, all, defect⟩
    exact firstDefect_append.2 (.inr ⟨all, .here defect⟩)

/-! ## What a filter says -/

section Passes

variable (e : Entry)

/-- The entry has this value where the attribute leads. -/
def Has (a : String) (v : Value) : Prop :=
  ∃ path, AttributePath.parse a = .ok path ∧ e.extract path = some v

mutual

/-- Whether an entry passes a filter, by the filter itself. -/
def Passes : Filter → Prop
  | .always => True
  | .equal a v => ∃ w, Has e a w ∧ w.looseEq v = true
  | .notEqual a v => ¬ ∃ w, Has e a w ∧ w.looseEq v = true
  | .compare c a v => ∃ w, Has e a w ∧ ∃ o, w.compare? v = some o ∧ c.accepts o = true
  | .between a low high => ∃ w, Has e a w ∧
      (∃ o, w.compare? low = some o ∧ o ≠ .lt) ∧ ∃ o, w.compare? high = some o ∧ o ≠ .gt
  | .oneOf a vs => ∃ w, Has e a w ∧ ∃ v ∈ vs, w.looseEq v = true
  | .like a p => ∃ t, Has e a (.text t) ∧ Pattern.Wildcard p.toList t.toList
  | .regex a p => ∃ t, Has e a (.text t) ∧ ∃ q, Pattern.parse p = .ok q ∧ q.isMatch t = true
  | .and fs => PassesAll fs
  | .or fs => PassesAny fs
  | .not f => ¬ Passes f

def PassesAll : List Filter → Prop
  | [] => True
  | f :: r => Passes f ∧ PassesAll r

def PassesAny : List Filter → Prop
  | [] => False
  | f :: r => Passes f ∨ PassesAny r

end

theorem passes_and : Passes e (.and fs) ↔ ∀ f ∈ fs, Passes e f := by
  rw [Passes]
  induction fs with
  | nil => exact iff_of_true trivial nofun
  | cons f fs ih => rw [PassesAll, ih, List.forall_mem_cons]

theorem passes_or : Passes e (.or fs) ↔ ∃ f ∈ fs, Passes e f := by
  rw [Passes]
  induction fs with
  | nil => exact iff_of_false id nofun
  | cons f fs ih => rw [PassesAny, ih, List.exists_mem_cons_iff]

variable {path : AttributePath} {v low high : Value} {vs : List Value} {c : Comparison}
  {q : Pattern}

theorem has_iff (read : AttributePath.parse a = .ok path) :
    Has e a v ↔ e.extract path = some v := by
  simp [Has, read]

theorem apply_equal (read : AttributePath.parse a = .ok path) :
    (CompiledFilter.equal path v).apply e = true ↔ Passes e (.equal a v) := by
  simp only [CompiledFilter.apply, Passes, Option.any_eq_true, has_iff e read]

theorem apply_compare (read : AttributePath.parse a = .ok path) :
    (CompiledFilter.compare c path v).apply e = true ↔ Passes e (.compare c a v) := by
  simp only [CompiledFilter.apply, CompiledFilter.compares, Passes, Option.any_eq_true,
    has_iff e read]

theorem apply_between (read : AttributePath.parse a = .ok path) :
    (CompiledFilter.between path low high).apply e = true ↔ Passes e (.between a low high) := by
  simp only [CompiledFilter.apply, CompiledFilter.compares, Passes, Option.any_eq_true,
    has_iff e read, Bool.and_eq_true, Comparison.accepts, bne_iff_ne]

theorem apply_oneOf (read : AttributePath.parse a = .ok path) :
    (CompiledFilter.oneOf path vs).apply e = true ↔ Passes e (.oneOf a vs) := by
  simp only [CompiledFilter.apply, Passes, Option.any_eq_true, List.any_eq_true, has_iff e read]

theorem apply_matching (read : AttributePath.parse a = .ok path) :
    (CompiledFilter.matching path q).apply e = true ↔
      ∃ t, Has e a (.text t) ∧ q.isMatch t = true := by
  rw [CompiledFilter.apply, Option.any_eq_true]
  refine exists_congr fun t => and_congr_left fun _ => ?_
  rw [has_iff e read]
  cases e.extract path with
  | none => simp
  | some v => cases v <;> simp [Value.asText?]

/-- A wildcard pattern is tested by its regular expression, if that can be read. -/
theorem passes_likeText (read : Pattern.parse (Pattern.likeText p) = .ok q) :
    Passes e (.regex a (Pattern.likeText p)) ↔ Passes e (.like a p) := by
  have fits := read
  rw [Pattern.parse_likeText, Pattern.checkSize] at fits
  split at fits
  · cases fits
    simp [Passes, read, Pattern.like_isMatch_iff]
  · cases fits

end Passes

/-! ## Compiling -/

variable {path : AttributePath}

theorem FirstDefect.single (first : FirstDefect [f] x) : f.Defect x := by
  cases first with
  | here defect => exact defect
  | later _ none => cases none

theorem Defect.parse_eq (defect : f.Defect x) (tests : f.attr? = some a)
    (plain : f.expression? = none) : AttributePath.parse a = .error x := by
  cases defect with
  | path same bad =>
    cases tests.symm.trans same
    exact bad
  | malformed _ same | oversized _ same => cases plain.symm.trans same

theorem compile_regex_of_sound (sound : (Filter.regex a p).Sound) :
    ∃ c, (Filter.regex a p).compile = .ok c ∧ ∀ e, c.apply e = true ↔ Passes e (.regex a p) := by
  obtain ⟨path, read⟩ := sound.path a rfl
  obtain ⟨q, pattern⟩ := sound.pattern p rfl
  refine ⟨.matching path q, by rw [compile, read, pattern]; rfl, fun e => ?_⟩
  simp [apply_matching e read, Passes, pattern]

theorem compile_regex_of_defect (defect : (Filter.regex a p).Defect x) :
    (Filter.regex a p).compile = .error x := by
  rw [compile]
  cases defect with
  | path tests bad =>
    cases tests
    rw [bad]
    rfl
  | malformed path tests bad | oversized path tests bad =>
    cases tests
    obtain ⟨_, read⟩ := path a rfl
    rw [read, bad]
    rfl

mutual

-- By the tree: the leaves of a filter are those of its parts, one part after the other.
theorem compile_of_sound : ∀ f : Filter, (∀ l ∈ f.leaves, l.Sound) →
    ∃ c, f.compile = .ok c ∧ ∀ e, c.apply e = true ↔ Passes e f
  | .always, _ => ⟨.always, rfl, fun _ => iff_of_true rfl trivial⟩
  | .equal a v, sound => by
    obtain ⟨path, read⟩ := (sound _ (.head _)).path a rfl
    exact ⟨.equal path v, by rw [compile, read]; rfl, fun e => apply_equal e read⟩
  | .notEqual a v, sound => by
    obtain ⟨path, read⟩ := (sound _ (.head _)).path a rfl
    refine ⟨.not (.equal path v), by rw [compile, read]; rfl, fun e => ?_⟩
    rw [CompiledFilter.apply, Bool.not_eq_true', ← Bool.not_eq_true, apply_equal e read]
    rfl
  | .compare c a v, sound => by
    obtain ⟨path, read⟩ := (sound _ (.head _)).path a rfl
    exact ⟨.compare c path v, by rw [compile, read]; rfl, fun e => apply_compare e read⟩
  | .between a low high, sound => by
    obtain ⟨path, read⟩ := (sound _ (.head _)).path a rfl
    exact ⟨.between path low high, by rw [compile, read]; rfl, fun e => apply_between e read⟩
  | .oneOf a vs, sound => by
    obtain ⟨path, read⟩ := (sound _ (.head _)).path a rfl
    exact ⟨.oneOf path vs, by rw [compile, read]; rfl, fun e => apply_oneOf e read⟩
  | .like a p, sound => by
    obtain ⟨path, pattern⟩ := sound _ (.head _)
    obtain ⟨c, compiled, agree⟩ :=
      compile_regex_of_sound (a := a) (p := Pattern.likeText p) ⟨path, pattern⟩
    obtain ⟨q, read⟩ := pattern _ rfl
    exact ⟨c, (compile_like_eq_regex a p).trans compiled,
      fun e => (agree e).trans (passes_likeText e read)⟩
  | .regex a p, sound => compile_regex_of_sound (sound _ (.head _))
  | .and fs, sound => by
    obtain ⟨cs, compiled, agree⟩ := compileAll_of_sound fs sound
    refine ⟨.and cs, by rw [compile, compiled]; rfl, fun e => ?_⟩
    rw [CompiledFilter.apply, (agree e).1, passes_and]
  | .or fs, sound => by
    obtain ⟨cs, compiled, agree⟩ := compileAll_of_sound fs sound
    refine ⟨.or cs, by rw [compile, compiled]; rfl, fun e => ?_⟩
    rw [CompiledFilter.apply, (agree e).2, passes_or]
  | .not f, sound => by
    obtain ⟨c, compiled, agree⟩ := compile_of_sound f sound
    refine ⟨.not c, by rw [compile, compiled]; rfl, fun e => ?_⟩
    rw [CompiledFilter.apply, Bool.not_eq_true', ← Bool.not_eq_true, agree, Passes]

theorem compileAll_of_sound : ∀ fs : List Filter, (∀ l ∈ leavesOfAll fs, l.Sound) →
    ∃ cs, compileAll fs = .ok cs ∧ ∀ e,
      (CompiledFilter.applyAll e cs = true ↔ ∀ f ∈ fs, Passes e f) ∧
        (CompiledFilter.applyAny e cs = true ↔ ∃ f ∈ fs, Passes e f)
  | [], _ => ⟨[], rfl, fun _ => ⟨iff_of_true rfl nofun, iff_of_false nofun nofun⟩⟩
  | f :: r, sound => by
    rw [leavesOfAll, List.forall_mem_append] at sound
    obtain ⟨c, first, agree⟩ := compile_of_sound f sound.1
    obtain ⟨cs, rest, agrees⟩ := compileAll_of_sound r sound.2
    refine ⟨c :: cs, by rw [compileAll, first, rest]; rfl, fun e => ⟨?_, ?_⟩⟩
    · rw [CompiledFilter.applyAll, Bool.and_eq_true, agree, (agrees e).1, List.forall_mem_cons]
    · rw [CompiledFilter.applyAny, Bool.or_eq_true, agree, (agrees e).2, List.exists_mem_cons_iff]

end

mutual

theorem compile_of_firstDefect : ∀ f : Filter, FirstDefect f.leaves x → f.compile = .error x
  | .always, first => by
    cases first.single with
    | path tests | malformed _ tests | oversized _ tests => cases tests
  | .equal a v, first | .notEqual a v, first | .compare c a v, first | .between a low high, first
  | .oneOf a vs, first => by
    rw [compile, first.single.parse_eq rfl rfl]
    rfl
  | .like a p, first => by
    rw [compile_like_eq_regex]
    refine compile_regex_of_defect ?_
    cases first.single with
    | path tests bad => exact .path tests bad
    | malformed path tests bad => exact .malformed path tests bad
    | oversized path tests bad => exact .oversized path tests bad
  | .regex a p, first => compile_regex_of_defect first.single
  | .and fs, first | .or fs, first => by
    rw [compile, compileAll_of_firstDefect fs first]
    rfl
  | .not f, first => by
    rw [compile, compile_of_firstDefect f first]
    rfl

theorem compileAll_of_firstDefect : ∀ fs : List Filter, FirstDefect (leavesOfAll fs) x →
    compileAll fs = .error x
  | f :: r, first => by
    rcases firstDefect_append.1 first with first | ⟨sound, rest⟩
    · rw [compileAll, compile_of_firstDefect f first]
      rfl
    · obtain ⟨c, compiled, -⟩ := compile_of_sound f sound
      rw [compileAll, compiled, compileAll_of_firstDefect r rest]
      rfl

end

theorem exists_parse_likeText_iff :
    (∃ q, Pattern.parse (Pattern.likeText p) = .ok q) ↔ (Pattern.like p).fits = true := by
  rw [Pattern.parse_likeText, Pattern.checkSize]
  split
  · next small => exact iff_of_true ⟨_, rfl⟩ small
  · next large => exact iff_of_false (by rintro ⟨_, ⟨⟩⟩) large

theorem forall_sound_iff : (∀ l ∈ ls, l.Sound) ↔ (∀ l ∈ ls, l.HasPath) ∧
    (∀ a p, .regex a p ∈ ls → ∃ q, Pattern.parse p = .ok q) ∧
    ∀ a p, .like a p ∈ ls → (Pattern.like p).fits = true := by
  constructor
  · intro sound
    exact ⟨fun l mem => (sound l mem).path, fun a p mem => (sound _ mem).pattern p rfl,
      fun a p mem => exists_parse_likeText_iff.1 ((sound _ mem).pattern _ rfl)⟩
  · rintro ⟨path, regex, like⟩ l mem
    refine ⟨path l mem, fun s tests => ?_⟩
    cases l with
    | like a p =>
      cases tests
      exact exists_parse_likeText_iff.2 (like a p mem)
    | regex a p =>
      cases tests
      exact regex a _ mem
    | always | equal | notEqual | compare | between | oneOf | and | or | not => cases tests

/-- A filter compiles just when each attribute is a path, each regular expression can be read, and
each wildcard pattern is small enough. Otherwise the error is that of the first leaf in reading
order that is not sound. A compiled filter accepts just the entries that pass the filter. -/
theorem compile_leftmost (f : Filter) :
    ((∃ c, f.compile = .ok c) ↔ (∀ l ∈ f.leaves, l.HasPath) ∧
      (∀ a p, .regex a p ∈ f.leaves → ∃ q, Pattern.parse p = .ok q) ∧
      ∀ a p, .like a p ∈ f.leaves → (Pattern.like p).fits = true) ∧
    (∀ x, f.compile = .error x ↔ ∃ before l after, f.leaves = before ++ l :: after ∧
      (∀ k ∈ before, k.Sound) ∧ l.Defect x) ∧
    ∀ c, f.compile = .ok c → ∀ e : Entry, c.apply e = true ↔ Passes e f := by
  rw [← forall_sound_iff]
  simp only [← firstDefect_iff]
  rcases sound_or_firstDefect f.leaves with sound | ⟨x, first⟩
  · obtain ⟨c, compiled, agree⟩ := compile_of_sound f sound
    rw [compiled]
    refine ⟨iff_of_true ⟨c, rfl⟩ sound, fun x => iff_of_false nofun fun first => ?_, ?_⟩
    · cases compiled.symm.trans (compile_of_firstDefect f first)
    · rintro _ ⟨⟩
      exact agree
  · have failed := compile_of_firstDefect f first
    rw [failed]
    refine ⟨iff_of_false nofun fun sound => ?_, fun y => ⟨?_, fun other => ?_⟩, nofun⟩
    · obtain ⟨c, compiled, -⟩ := compile_of_sound f sound
      cases failed.symm.trans compiled
    · rintro ⟨⟩
      exact first
    · exact failed.symm.trans (compile_of_firstDefect f other)

/-- A bad attribute beside a bad pattern, after a good leaf and before other defects; and a filter
with empty lists. -/
theorem compile_leftmost_nested :
    let f : Filter := .and [.equal "a" .null, .not (.or [.regex "b." "(", .regex "c" "("]),
      .like "" "x"]
    let g : Filter := .not (.or [.or [], .and [.like "this" "_%", .and []]])
    f.compile = .error (.invalidRequest (.malformedPath "b.")) ∧
      ∃ c, g.compile = .ok c ∧ c.apply ⟨"k", .text ""⟩ = true ∧
        c.apply ⟨"k", .text "né"⟩ = false := by
  intro f g
  have this : AttributePath.parse "this" = .ok ⟨["this"]⟩ := by decide
  have good : (Filter.equal "a" .null).Sound :=
    ⟨fun _ tests => ⟨⟨["a"]⟩, Option.some.inj tests ▸ by decide⟩, nofun⟩
  have bad : (Filter.regex "b." "(").Defect (.invalidRequest (.malformedPath "b.")) :=
    .path rfl (by decide)
  obtain ⟨-, fails, -⟩ := compile_leftmost f
  obtain ⟨compiles, -, agrees⟩ := compile_leftmost g
  refine ⟨(fails _).2 ⟨[_], _, _, rfl, List.forall_mem_singleton.2 good, bad⟩, ?_⟩
  have small : ∀ l ∈ g.leaves, l = .like "this" "_%" := by simp [g, leaves, leavesOfAll]
  have valid : ∃ c, g.compile = .ok c := by
    refine compiles.2 ⟨fun l mem => ?_, fun a p mem => ?_, fun a p mem => ?_⟩
    · cases small l mem
      exact fun _ tests => ⟨_, Option.some.inj tests ▸ this⟩
    · cases small _ mem
    · cases small _ mem
      exact Pattern.fits_like _ (by decide)
  obtain ⟨c, compiled⟩ := valid
  have passes (t : String) : Passes ⟨"k", .text t⟩ g ↔ ¬ Pattern.Wildcard "_%".toList t.toList := by
    simp [g, Passes, PassesAll, PassesAny, has_iff _ this, Entry.extract, Entry.descend]
  refine ⟨c, compiled, (agrees c compiled _).2 ((passes _).2 (by decide)), ?_⟩
  exact Bool.eq_false_iff.2 fun h => (passes _).1 ((agrees c compiled _).1 h) (by decide)

/-- A wildcard pattern may be too large, so that valid attributes and regular expressions are not
all that a filter needs. -/
theorem compile_like_oversized :
    let p := String.ofList (List.replicate 12000 '_')
    let f : Filter := .like "this" p
    f.compile =
        .error (.invalidRequest (.oversizedPattern (Pattern.likeText p) Pattern.sizeLimit)) ∧
      ¬ ((∃ c, f.compile = .ok c) ↔ (∀ l ∈ f.leaves, l.HasPath) ∧
        ∀ a p, .regex a p ∈ f.leaves → ∃ q, Pattern.parse p = .ok q) := by
  intro p f
  have this : AttributePath.parse "this" = .ok ⟨["this"]⟩ := by decide
  have single : ∀ l ∈ f.leaves, l = .like "this" p := fun l mem => List.mem_singleton.1 mem
  have refused : f.compile =
      .error (.invalidRequest (.oversizedPattern (Pattern.likeText p) Pattern.sizeLimit)) := by
    rw [compile_like p this, Pattern.fits_underscores (by decide)]
    rfl
  refine ⟨refused, fun claimed => ?_⟩
  have valid : ∃ c, f.compile = .ok c := by
    refine claimed.2 ⟨fun l mem => ?_, fun a p mem => ?_⟩
    · rw [single l mem]
      exact fun _ tests => ⟨_, Option.some.inj tests ▸ this⟩
    · cases single _ mem
  obtain ⟨c, compiled⟩ := valid
  cases refused.symm.trans compiled

end DataGrid.Filter
