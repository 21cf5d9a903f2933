import DataGrid.Pattern.Build
import DataGrid.Proofs.Pattern.Positions

/-!
# What patterns match

`Spans` says from which position of a text to which one a pattern matches, by the form of the
pattern. Main statements: a search finds a match just when there is a span (`isMatch_iff`), and
putting patterns in a row does not change what they span, in whatever form the row is written
(`spans_concat`).
-/

namespace DataGrid.Pattern

/-! ## Spans -/

/-- The character in front of a position. -/
def before (cs : List Char) (i : Nat) : Option Char := (cs.take i).getLast?

mutual

/-- The pattern matches the text `cs` from the position `i` to `j`. A repetition spans as many matches
as there have to be, and then further ones up to its limit. -/
def Spans (cs : List Char) : Pattern → Nat → Nat → Prop
  | .empty, i, j => i = j
  | .text t, i, j => j = i + t.length ∧ t <+: cs.drop i
  | .chars s, i, j => j = i + 1 ∧ ∃ c, cs[i]? = some c ∧ s.contains c = true
  | .look k, i, j => i = j ∧ i ≤ cs.length ∧ k.holds (before cs i) cs[i]? = true
  | .group _ p, i, j => Spans cs p i j
  | .repeated p low high _, i, j =>
    ∃ more, (∀ h, high = some h → more ≤ h - low) ∧ Steps (Spans cs p) (low + more) i j
  | .seq ps, i, j => SpansRow cs ps i j
  | .alt ps, i, j => SpansAny cs ps i j

/-- The patterns match one after the other. -/
def SpansRow (cs : List Char) : List Pattern → Nat → Nat → Prop
  | [], i, j => i = j
  | p :: ps, i, j => ∃ m, Spans cs p i m ∧ SpansRow cs ps m j

/-- One of the patterns matches. -/
def SpansAny (cs : List Char) : List Pattern → Nat → Nat → Prop
  | [], _, _ => False
  | p :: ps, i, j => Spans cs p i j ∨ SpansAny cs ps i j

end

/-! ## The positions of characters -/

/-- What a mask gathers from the positions of characters that satisfy `Q`. -/
def Gathers (mask : List (Char × Nat) → Nat) (Q : Char → Prop) : Prop :=
  mask [] = 0 ∧ ∀ c m found i, (mask (addOccurrence c (2 ^ m) found)).testBit i = true ↔
    (mask found).testBit i = true ∨ Q c ∧ m = i

section Masks

variable {mask : List (Char × Nat) → Nat} {Q : Char → Prop}

theorem Gathers.testBit_from (h : Gathers mask Q) (cs : List Char) (m : Nat)
    (found : List (Char × Nat)) (i : Nat) :
    (mask (occurrencesFrom (2 ^ m) found cs)).testBit i = true ↔
      (mask found).testBit i = true ∨ ∃ k c, cs[k]? = some c ∧ Q c ∧ m + k = i := by
  induction cs generalizing m found with
  | nil => simp [occurrencesFrom]
  | cons c cs ih =>
    have next : 2 * 2 ^ m = 2 ^ (m + 1) := by rw [Nat.pow_succ, Nat.mul_comm]
    rw [occurrencesFrom, next, ih, h.2]
    constructor
    · rintro ((old | ⟨hc, rfl⟩) | ⟨k, d, hk, hd, rfl⟩)
      · exact .inl old
      · exact .inr ⟨0, c, rfl, hc, rfl⟩
      · exact .inr ⟨k + 1, d, hk, hd, by omega⟩
    · rintro (old | ⟨k, d, hk, hd, rfl⟩)
      · exact .inl (.inl old)
      · cases k with
        | zero =>
          obtain rfl : c = d := by simpa using hk
          exact .inl (.inr ⟨hd, rfl⟩)
        | succ k => exact .inr ⟨k, d, hk, hd, by omega⟩

theorem Gathers.testBit (h : Gathers mask Q) (cs : List Char) (i : Nat) :
    (mask (occurrencesFrom 1 [] cs)).testBit i = true ↔ ∃ c, cs[i]? = some c ∧ Q c := by
  have all := h.testBit_from cs 0 [] i
  rw [Nat.pow_zero] at all
  rw [all, h.1]
  simp

end Masks

theorem gathers_setMask (s : CharSet) : Gathers (setMask · s) (s.contains · = true) := by
  have fold (found : List (Char × Nat)) (m i : Nat) :
      (found.foldl (fun m p => if s.contains p.1 then m ||| p.2 else m) m).testBit i = true ↔
        m.testBit i = true ∨ ∃ p ∈ found, s.contains p.1 = true ∧ p.2.testBit i = true := by
    induction found generalizing m with
    | nil => simp
    | cons p found ih =>
      rw [List.foldl_cons, ih]
      by_cases inside : s.contains p.1 = true <;> simp [inside, or_assoc]
  have mem (c : Char) (m : Nat) (found : List (Char × Nat)) (i : Nat) :
      (∃ p ∈ addOccurrence c (2 ^ m) found, s.contains p.1 = true ∧ p.2.testBit i = true) ↔
        (∃ p ∈ found, s.contains p.1 = true ∧ p.2.testBit i = true) ∨
          s.contains c = true ∧ m = i := by
    induction found with
    | nil => simp [addOccurrence, Nat.testBit_two_pow]
    | cons p found ih =>
      rw [addOccurrence]
      split
      · next same =>
        subst same
        simp only [List.mem_cons, exists_eq_or_imp, Nat.testBit_or, Bool.or_eq_true,
          Nat.testBit_two_pow, decide_eq_true_eq]
        rw [and_or_left, or_right_comm]
      · simp only [List.mem_cons, exists_eq_or_imp, ih, or_assoc]
  refine ⟨rfl, fun c m found i => ?_⟩
  simp only [setMask, fold, mem, Nat.zero_testBit, Bool.false_eq_true, false_or]

theorem charMask_addOccurrence (c d : Char) (bit : Nat) (found : List (Char × Nat)) :
    charMask (addOccurrence d bit found) c =
      if d = c then charMask found c ||| bit else charMask found c := by
  have head (e : Char) (m : Nat) (r : List (Char × Nat)) :
      charMask ((e, m) :: r) c = if e = c then m else charMask r c := by
    by_cases here : e = c
    · subst here
      simp [charMask]
    · have other : (c == e) = false := beq_eq_false_iff_ne.2 (Ne.symm here)
      simp [charMask, List.lookup_cons, other, here]
  have nil : charMask [] c = 0 := rfl
  induction found with
  | nil => simp [addOccurrence, head, nil]
  | cons p found ih =>
    obtain ⟨e, m⟩ := p
    by_cases same : e = d
    · subst same
      simp only [addOccurrence, if_true, head]
      split <;> rfl
    · simp only [addOccurrence, if_neg same, head, ih]
      by_cases here : e = c
      · have other : d ≠ c := fun h => same (here.trans h.symm)
        simp [here, other]
      · simp [here]

theorem gathers_charMask (c : Char) : Gathers (charMask · c) (· = c) := by
  refine ⟨rfl, fun d m found i => ?_⟩
  simp only [charMask_addOccurrence]
  split <;> simp [*, Nat.testBit_or, Nat.testBit_two_pow]

theorem testBit_lookMask_from (k : Look) (pre cs : List Char) (mask i : Nat) :
    (lookMask k pre.getLast? (2 ^ pre.length) mask cs).testBit i = true ↔
      mask.testBit i = true ∨ pre.length ≤ i ∧ i ≤ (pre ++ cs).length ∧
        k.holds (before (pre ++ cs) i) (pre ++ cs)[i]? = true := by
  have added (b : Bool) (mask m : Nat) : (if b then mask ||| 2 ^ m else mask).testBit i = true ↔
      mask.testBit i = true ∨ b = true ∧ m = i := by
    cases b <;> simp [Nat.testBit_two_pow]
  induction cs generalizing pre mask with
  | nil =>
    rw [lookMask, added]
    refine or_congr_right ⟨?_, ?_⟩
    · rintro ⟨holds, rfl⟩
      simpa [before] using holds
    · rintro ⟨low, high, holds⟩
      obtain rfl : pre.length = i := by simp at high; omega
      simpa [before] using holds
  | cons c cs ih =>
    have next : 2 * 2 ^ pre.length = 2 ^ (pre ++ [c]).length := by simp [Nat.pow_succ, Nat.mul_comm]
    have last : some c = (pre ++ [c]).getLast? := by simp
    have here : before (pre ++ c :: cs) pre.length = pre.getLast? := by simp [before]
    rw [lookMask, next, last]
    refine (ih (pre ++ [c]) _).trans ?_
    rw [← last, added, or_assoc, List.append_assoc, List.singleton_append, List.length_append,
      List.length_singleton]
    refine or_congr_right ⟨?_, ?_⟩
    · rintro (⟨holds, rfl⟩ | ⟨low, rest⟩)
      · exact ⟨le_rfl, by simp, by simpa [here] using holds⟩
      · exact ⟨by omega, rest⟩
    · rintro ⟨low, high, holds⟩
      rcases low.eq_or_lt with rfl | low
      · exact .inl ⟨by simpa [here] using holds, rfl⟩
      · exact .inr ⟨low, high, holds⟩

theorem testBit_lookMask (k : Look) (cs : List Char) (i : Nat) :
    (lookMask k none 1 0 cs).testBit i = true ↔
      i ≤ cs.length ∧ k.holds (before cs i) cs[i]? = true := by
  simpa using testBit_lookMask_from k [] cs 0 i

/-! ## Spans and ends -/

section Ends

variable {n : Nat} {R : Nat → Nat → Prop}

theorem carries_step {mask : Nat} (inside : ∀ i, mask.testBit i = true → i < n) :
    Carries n (fun s => (s &&& mask) <<< 1) (fun i j => j = i + 1 ∧ mask.testBit i = true) where
  le _ := fun ⟨hj, hi⟩ => hj ▸ inside _ hi
  testBit _ j := by
    simp only [Nat.testBit_shiftLeft, Nat.testBit_and, Bool.and_eq_true, decide_eq_true_eq]
    constructor
    · rintro ⟨after, start, member⟩
      exact ⟨j - 1, start, by omega, member⟩
    · rintro ⟨i, start, rfl, member⟩
      exact ⟨by omega, start, member⟩

theorem carries_stay (mask : Nat) :
    Carries n (· &&& mask) (fun i j => i = j ∧ mask.testBit i = true) where
  le hi := fun ⟨hj, _⟩ => hj ▸ hi
  testBit _ j := by simp

theorem carries_repeated {o : Overlay} (h : Carries n (o.ends n) R) (low : Nat)
    (high : Option Nat) :
    Carries n ((Overlay.repeated o low high).ends n) fun i j =>
      ∃ more, (∀ h, high = some h → more ≤ h - low) ∧ Steps R (low + more) i j := by
  have start := h.iterate low
  cases high with
  | none =>
    have all : Carries n ((Overlay.repeated o low none).ends n)
        (fun i j => ∃ m, Steps R low i m ∧ ∃ k, Steps R k m j) := by
      cases o with
      -- Steps over the characters of a mask need no search.
      | step mask => exact start.trans h.run
      | _ => exact start.trans h.reachAll
    refine all.congr fun i j _ => ?_
    simp only [steps_add, reduceCtorEq, false_imp_iff, implies_true, true_and]
    exact ⟨fun ⟨m, him, k, hmj⟩ => ⟨k, m, him, hmj⟩, fun ⟨k, m, him, hmj⟩ => ⟨m, him, k, hmj⟩⟩
  | some high =>
    have bounded : Carries n ((Overlay.repeated o low (some high)).ends n)
        (fun i j => ∃ m, Steps R low i m ∧ ∃ k ≤ high - low, Steps R k m j) := by
      cases o <;> exact start.trans (h.reach (high - low))
    refine bounded.congr fun i j _ => ?_
    simp only [steps_add, Option.some.injEq, forall_eq']
    exact ⟨fun ⟨m, him, k, hk, hmj⟩ => ⟨k, hk, m, him, hmj⟩,
      fun ⟨k, hk, m, him, hmj⟩ => ⟨m, him, k, hk, hmj⟩⟩

theorem carries_text (cs t : List Char) :
    Carries cs.length
      (endsInRow cs.length (t.map fun c => .step (charMask (occurrencesFrom 1 [] cs) c)))
      (fun i j => j = i + t.length ∧ t <+: cs.drop i) := by
  have inside (c : Char) (i : Nat) :
      (charMask (occurrencesFrom 1 [] cs) c).testBit i = true ↔ cs[i]? = some c := by
    rw [(gathers_charMask c).testBit]
    simp
  induction t with
  | nil => exact (Carries.refl cs.length).congr fun i j _ => by simp [eq_comm]
  | cons c t ih =>
    have within (i : Nat) (hi : (charMask (occurrencesFrom 1 [] cs) c).testBit i = true) :
        i < cs.length := (List.getElem?_eq_some_iff.1 ((inside c i).1 hi)).1
    have first := carries_step within
    refine (first.trans ih).congr fun i j _ => ?_
    simp only [inside, List.length_cons]
    constructor
    · rintro ⟨_, ⟨rfl, here⟩, rfl, rest⟩
      obtain ⟨h, rfl⟩ := List.getElem?_eq_some_iff.1 here
      refine ⟨by omega, ?_⟩
      rw [List.drop_eq_getElem_cons h]
      exact List.cons_prefix_cons.2 ⟨rfl, rest⟩
    · rintro ⟨rfl, row⟩
      have h : i < cs.length := by
        have := row.length_le
        simp at this
        omega
      rw [List.drop_eq_getElem_cons h, List.cons_prefix_cons] at row
      exact ⟨i + 1, ⟨rfl, by simp [h, row.1]⟩, by omega, row.2⟩

mutual

theorem carries_lay (text : String) : ∀ p,
    Carries text.toList.length ((lay (Ground.ofText text) p).ends text.toList.length)
      (Spans text.toList p)
  | .empty => (Carries.refl _).congr fun _ _ _ => by rw [Spans]
  | .text t => by
    have row := carries_text text.toList t
    simp only [Spans]
    match t, row with
    | [], row => exact row
    | [_], row => exact row
    | _ :: _ :: _, row => exact row
  | .chars s => by
    have inside := (gathers_setMask s).testBit text.toList
    refine (carries_step fun i hi => ?_).congr fun i j _ => ?_
    · obtain ⟨c, here, -⟩ := (inside i).1 hi
      exact (List.getElem?_eq_some_iff.1 here).1
    · rw [Spans, Ground.ofText, inside]
  | .look k => (carries_stay _).congr fun i j _ => by
    rw [Spans, Ground.ofText, testBit_lookMask]
  | .group _ p => (carries_lay text p).congr fun _ _ _ => by rw [Spans]
  | .repeated p low high _ =>
    (carries_repeated (carries_lay text p) low high).congr fun _ _ _ => by rw [Spans]
  | .seq ps => (carries_layAll text ps).congr fun _ _ _ => by rw [Spans]
  | .alt ps => (carries_layAny text ps).congr fun _ _ _ => by rw [Spans]

theorem carries_layAll (text : String) : ∀ ps,
    Carries text.toList.length
      (endsInRow text.toList.length (layAll (Ground.ofText text) ps)) (SpansRow text.toList ps)
  | [] => Carries.refl _
  | p :: ps => (carries_lay text p).trans (carries_layAll text ps)

theorem carries_layAny (text : String) : ∀ ps,
    Carries text.toList.length
      (endsOfAny text.toList.length (layAll (Ground.ofText text) ps)) (SpansAny text.toList ps)
  | [] => Carries.none _
  | p :: ps => (carries_lay text p).either (carries_layAny text ps)

end

end Ends

/-- A search finds a match just when there is one. -/
theorem isMatch_iff (p : Pattern) (text : String) :
    p.isMatch text = true ↔ ∃ i j, i ≤ text.toList.length ∧ Spans text.toList p i j := by
  have start (i : Nat) :
      (2 ^ (text.toList.length + 1) - 1).testBit i = true ↔ i ≤ text.toList.length := by
    rw [Nat.testBit_two_pow_sub_one, decide_eq_true_eq, Nat.lt_add_one_iff]
  have found := (carries_lay text p).testBit fun i hi => (start i).1 hi
  have some_iff (s : Nat) : (s != 0) = true ↔ ∃ j, s.testBit j = true := by
    rw [bne_iff_ne]
    refine ⟨Nat.exists_testBit_of_ne_zero, ?_⟩
    rintro ⟨j, hj⟩ rfl
    simp at hj
  refine ((some_iff _).trans (exists_congr found)).trans ?_
  simp only [start]
  exact ⟨fun ⟨j, i, hi, span⟩ => ⟨i, j, hi, span⟩, fun ⟨i, j, hi, span⟩ => ⟨j, i, hi, span⟩⟩

/-! ## Patterns in a row -/

section Rows

variable {cs : List Char} {i j : Nat}

theorem spansRow_append {ps qs : List Pattern} :
    SpansRow cs (ps ++ qs) i j ↔ ∃ m, SpansRow cs ps i m ∧ SpansRow cs qs m j := by
  induction ps generalizing i with
  | nil => simp [SpansRow]
  | cons p ps ih =>
    simp only [List.cons_append, SpansRow, ih]
    exact ⟨fun ⟨k, hik, m, hkm, hmj⟩ => ⟨m, ⟨k, hik, hkm⟩, hmj⟩,
      fun ⟨m, ⟨k, hik, hkm⟩, hmj⟩ => ⟨k, hik, m, hkm, hmj⟩⟩

theorem spansRow_parts {p : Pattern} : SpansRow cs p.parts i j ↔ Spans cs p i j := by
  cases p <;> simp [parts, Spans, SpansRow]

theorem spansRow_flatMap_parts {ps : List Pattern} :
    SpansRow cs (ps.flatMap parts) i j ↔ SpansRow cs ps i j := by
  induction ps generalizing i with
  | nil => rfl
  | cons p ps ih => simp only [List.flatMap_cons, spansRow_append, spansRow_parts, ih, SpansRow]

theorem append_prefix_iff {a b l : List Char} :
    a ++ b <+: l ↔ a <+: l ∧ b <+: l.drop a.length := by
  constructor
  · rintro ⟨t, rfl⟩
    simp [List.append_assoc]
  · rintro ⟨⟨t, rfl⟩, row⟩
    rw [List.drop_left] at row
    exact List.prefix_append_right_inj a |>.2 row

theorem spansRow_putBefore {p : Pattern} {ps : List Pattern} :
    SpansRow cs (putBefore p ps) i j ↔ SpansRow cs (p :: ps) i j := by
  unfold putBefore
  split
  · next a b ps =>
    simp only [SpansRow, Spans, List.length_append, append_prefix_iff, List.drop_drop]
    constructor
    · rintro ⟨_, ⟨rfl, ha, hb⟩, rest⟩
      exact ⟨_, ⟨rfl, ha⟩, _, ⟨rfl, hb⟩, by rwa [Nat.add_assoc]⟩
    · rintro ⟨_, ⟨rfl, ha⟩, _, ⟨rfl, hb⟩, rest⟩
      exact ⟨_, ⟨rfl, ha, hb⟩, by rwa [← Nat.add_assoc]⟩
  · rfl

theorem spansRow_foldr_putBefore {ps : List Pattern} :
    SpansRow cs (ps.foldr putBefore []) i j ↔ SpansRow cs ps i j := by
  induction ps generalizing i with
  | nil => rfl
  | cons p ps ih => simp only [List.foldr_cons, spansRow_putBefore, SpansRow, ih]

theorem spans_concat {ps : List Pattern} :
    Spans cs (concat ps) i j ↔ SpansRow cs ps i j := by
  rw [← spansRow_flatMap_parts, ← spansRow_foldr_putBefore, concat]
  split
  · next none => rw [none, Spans, SpansRow]
  · next p one => simp [one, SpansRow]
  · rw [Spans]

end Rows

end DataGrid.Pattern
