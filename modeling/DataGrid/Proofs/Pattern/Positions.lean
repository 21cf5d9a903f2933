import DataGrid.Pattern.Overlay
import Mathlib.Data.Finset.Card
import Mathlib.Data.Nat.Bitwise

/-!
# Sets of positions

A set of positions of a text is a number with a bit for each of them. An operation on such numbers
`Carries` positions along a relation if it goes to all positions to which the relation leads from one
of the set. Main statements: what is carried by repeating an operation so many times
(`Carries.iterate`), up to so many times (`Carries.reach`), as often as it leads on
(`Carries.reachAll`), and by the addition that runs through all characters of a mask at once
(`Carries.run`).
-/

namespace DataGrid.Pattern

/-- `k` steps of a relation in a row. -/
def Steps (R : Nat → Nat → Prop) : Nat → Nat → Nat → Prop
  | 0, i, j => i = j
  | k + 1, i, j => ∃ m, R i m ∧ Steps R k m j

/-- The positions of the set are those of a text of `n` characters. -/
def Within (n s : Nat) : Prop := ∀ i, s.testBit i = true → i ≤ n

/-- The operation `f` takes a set of positions to those that `R` leads to. -/
structure Carries (n : Nat) (f : Nat → Nat) (R : Nat → Nat → Prop) : Prop where
  le : ∀ {i j}, i ≤ n → R i j → j ≤ n
  testBit : ∀ {s}, Within n s → ∀ j, (f s).testBit j = true ↔ ∃ i, s.testBit i = true ∧ R i j

variable {n : Nat} {f g : Nat → Nat} {R S : Nat → Nat → Prop}

theorem Steps.append {k l i m j : Nat} (h : Steps R k i m) (h' : Steps R l m j) :
    Steps R (k + l) i j := by
  induction k generalizing i with
  | zero =>
    obtain rfl : i = m := h
    simpa using h'
  | succ k ih =>
    obtain ⟨p, hp, rest⟩ := h
    rw [Nat.add_right_comm]
    exact ⟨p, hp, ih rest⟩

theorem steps_add {k l i j : Nat} :
    Steps R (k + l) i j ↔ ∃ m, Steps R k i m ∧ Steps R l m j := by
  constructor
  · intro h
    induction k generalizing i with
    | zero => exact ⟨i, rfl, by simpa using h⟩
    | succ k ih =>
      rw [Nat.add_right_comm] at h
      obtain ⟨p, hp, rest⟩ := h
      obtain ⟨m, hm, last⟩ := ih rest
      exact ⟨m, ⟨p, hp, hm⟩, last⟩
  · rintro ⟨m, h, h'⟩
    exact h.append h'

/-- A set that no step leaves is not left by several. -/
theorem Steps.mem_of_closed {P : Nat → Prop} (closed : ∀ i j, P i → R i j → P j) {k i j : Nat}
    (h : Steps R k i j) (hi : P i) : P j := by
  induction k generalizing i with
  | zero => exact (show i = j from h) ▸ hi
  | succ k ih =>
    obtain ⟨m, hm, rest⟩ := h
    exact ih rest (closed i m hi hm)

namespace Carries

theorem within (h : Carries n f R) {s : Nat} (hs : Within n s) : Within n (f s) := fun j hj => by
  obtain ⟨i, hi, hij⟩ := (h.testBit hs j).1 hj
  exact h.le (hs i hi) hij

theorem congr (h : Carries n f R) (same : ∀ i j, i ≤ n → (R i j ↔ S i j)) : Carries n f S where
  le hi hij := h.le hi ((same _ _ hi).2 hij)
  testBit hs j := (h.testBit hs j).trans
    ⟨fun ⟨i, hi, hij⟩ => ⟨i, hi, (same i j (hs i hi)).1 hij⟩,
      fun ⟨i, hi, hij⟩ => ⟨i, hi, (same i j (hs i hi)).2 hij⟩⟩

/-- What an operation carries shows in what it does to single positions. -/
theorem iff_testBit (h : Carries n f R) {i : Nat} (hi : i ≤ n) (j : Nat) :
    R i j ↔ (f (2 ^ i)).testBit j = true := by
  have single (k : Nat) : (2 ^ i).testBit k = true ↔ i = k := by simp [Nat.testBit_two_pow]
  rw [h.testBit (fun k hk => (single k).1 hk ▸ hi)]
  simp [single]

theorem refl (n : Nat) : Carries n id Eq where
  le hi hij := hij ▸ hi
  testBit _ j := by simp

theorem trans (h : Carries n f R) (h' : Carries n g S) :
    Carries n (fun s => g (f s)) (fun i j => ∃ m, R i m ∧ S m j) where
  le hi := fun ⟨_, him, hmj⟩ => h'.le (h.le hi him) hmj
  testBit hs j := by
    simp only [h'.testBit (h.within hs), h.testBit hs]
    exact ⟨fun ⟨m, ⟨i, hi, him⟩, hmj⟩ => ⟨i, hi, m, him, hmj⟩,
      fun ⟨i, hi, m, him, hmj⟩ => ⟨m, ⟨i, hi, him⟩, hmj⟩⟩

theorem either (h : Carries n f R) (h' : Carries n g S) :
    Carries n (fun s => f s ||| g s) (fun i j => R i j ∨ S i j) where
  le hi hij := hij.elim (h.le hi) (h'.le hi)
  testBit hs j := by
    simp only [Nat.testBit_or, Bool.or_eq_true, h.testBit hs, h'.testBit hs, ← exists_or,
      ← and_or_left]

theorem none (n : Nat) : Carries n (fun _ => 0) (fun _ _ => False) where
  le _ := False.elim
  testBit _ j := by simp

/-! ## Repetitions -/

theorem iterate_succ (f : Nat → Nat) (k s : Nat) :
    Pattern.iterate f (k + 1) s = Pattern.iterate f k (f s) := by
  have still (fixed : f s = s) : Pattern.iterate f k s = s := by
    cases k with
    | zero => rfl
    | succ k => simp [Pattern.iterate, fixed]
  by_cases fixed : f s = s
  · simp [Pattern.iterate, fixed, still]
  · simp [Pattern.iterate, fixed]

theorem iterate (h : Carries n f R) (k : Nat) : Carries n (Pattern.iterate f k) (Steps R k) := by
  induction k with
  | zero => exact .refl n
  | succ k ih =>
    have next := h.trans ih
    simp only [← iterate_succ] at next
    exact next

theorem testBit_without (s seen i : Nat) :
    (without s seen).testBit i = (s.testBit i && !seen.testBit i) := by
  simp only [without, Nat.testBit_xor, Nat.testBit_or]
  cases s.testBit i <;> cases seen.testBit i <;> rfl

/-- A search that has come this far: the new positions are among those seen, and only they may lead
on to others. -/
structure Frontier (n : Nat) (R : Nat → Nat → Prop) (seen new : Nat) : Prop where
  within : Within n seen
  sub : ∀ {i}, new.testBit i = true → seen.testBit i = true
  closed : ∀ {i j}, seen.testBit i = true → new.testBit i = false → R i j →
    seen.testBit j = true

section Search

variable {seen new : Nat}

theorem mem_of_frontier (h : Carries n f R) (front : Frontier n R seen new) {i j : Nat}
    (hi : seen.testBit i = true) (hij : R i j) :
    seen.testBit j = true ∨ (without (f new) seen).testBit j = true := by
  cases hj : seen.testBit j with
  | true => exact .inl rfl
  | false =>
    refine .inr ?_
    have fresh : new.testBit i = true := by
      by_contra old
      exact absurd (front.closed hi (Bool.eq_false_iff.2 old) hij) (by simp [hj])
    have found : (f new).testBit j = true :=
      (h.testBit (fun k hk => front.within k (front.sub hk)) j).2 ⟨i, fresh, hij⟩
    simp [testBit_without, found, hj]

theorem frontier_next (h : Carries n f R) (front : Frontier n R seen new) :
    Frontier n R (seen ||| without (f new) seen) (without (f new) seen) where
  within i hi := by
    rw [Nat.testBit_or, Bool.or_eq_true] at hi
    rcases hi with old | next
    · exact front.within i old
    · rw [testBit_without, Bool.and_eq_true] at next
      exact h.within (fun k hk => front.within k (front.sub hk)) i next.1
  sub hi := by simp [hi]
  closed hi old hij := by
    rw [Nat.testBit_or, old, Bool.or_false] at hi
    rw [Nat.testBit_or, Bool.or_eq_true]
    exact h.mem_of_frontier front hi hij

/-- A search that finds nothing new is over. -/
theorem closed_of_next_eq_zero (h : Carries n f R) (front : Frontier n R seen new)
    (done : without (f new) seen = 0) (i j : Nat) (hi : seen.testBit i = true) (hij : R i j) :
    seen.testBit j = true := by
  simpa [done] using h.mem_of_frontier front hi hij

theorem testBit_reach (h : Carries n f R) (front : Frontier n R seen new) (m j : Nat) :
    (Pattern.reach f m seen new).testBit j = true ↔
      ∃ i, seen.testBit i = true ∧ ∃ k ≤ m, Steps R k i j := by
  induction m generalizing seen new with
  | zero => simp [Pattern.reach, Steps]
  | succ m ih =>
    unfold Pattern.reach
    dsimp only
    split
    · next done =>
      exact ⟨fun hj => ⟨j, hj, 0, Nat.zero_le _, rfl⟩, fun ⟨i, hi, k, _, steps⟩ =>
        steps.mem_of_closed (P := fun i => seen.testBit i = true)
          (h.closed_of_next_eq_zero front done) hi⟩
    · rw [ih (h.frontier_next front)]
      constructor
      · rintro ⟨i, hi, k, hk, steps⟩
        rw [Nat.testBit_or, Bool.or_eq_true] at hi
        rcases hi with old | next
        · exact ⟨i, old, k, by omega, steps⟩
        · rw [testBit_without, Bool.and_eq_true] at next
          have inside : Within n new := fun k hk => front.within k (front.sub hk)
          obtain ⟨p, hp, hpi⟩ := (h.testBit inside i).1 next.1
          exact ⟨p, front.sub hp, k + 1, by omega, i, hpi, steps⟩
      · rintro ⟨i, hi, k, hk, steps⟩
        cases k with
        | zero => exact ⟨i, by simp [hi], 0, Nat.zero_le _, steps⟩
        | succ k =>
          obtain ⟨p, hip, rest⟩ := steps
          have found := h.mem_of_frontier front hi hip
          exact ⟨p, by simpa using found, k, by omega, rest⟩

/-- The positions of a text that are not in the set. -/
def unseen (n seen : Nat) : Finset Nat :=
  (Finset.range (n + 1)).filter fun i => seen.testBit i = false

/-- Each round of a search finds a position or is the last one, so as many rounds as there are
positions are enough. -/
theorem closed_reach (h : Carries n f R) (front : Frontier n R seen new) {m : Nat}
    (rounds : (unseen n seen).card ≤ m) (i j : Nat)
    (hi : (Pattern.reach f m seen new).testBit i = true) (hij : R i j) :
    (Pattern.reach f m seen new).testBit j = true := by
  induction m generalizing seen new with
  | zero =>
    have all : unseen n seen = ∅ := Finset.card_eq_zero.1 (Nat.le_zero.1 rounds)
    change seen.testBit i = true at hi
    change seen.testBit j = true
    by_contra missing
    have mem : j ∈ unseen n seen := by
      have inside : j ≤ n := h.le (front.within i hi) hij
      simpa [unseen, Nat.lt_succ_iff, inside] using missing
    simp [all] at mem
  | succ m ih =>
    unfold Pattern.reach at hi ⊢
    dsimp only at hi ⊢
    split at hi
    · next done =>
      rw [if_pos done]
      exact h.closed_of_next_eq_zero front done i j hi hij
    · next more =>
      rw [if_neg more]
      refine ih (h.frontier_next front) ?_ hi
      obtain ⟨p, hp⟩ := Nat.exists_testBit_of_ne_zero more
      have inside : p ≤ n := (h.frontier_next front).within p (by simp [hp])
      have fewer : unseen n (seen ||| without (f new) seen) ⊂ unseen n seen := by
        refine Finset.ssubset_iff_subset_ne.2 ⟨fun q hq => ?_, fun same => ?_⟩
        · simp only [unseen, Finset.mem_filter, Nat.testBit_or, Bool.or_eq_false_iff] at hq ⊢
          exact ⟨hq.1, hq.2.1⟩
        · have old : p ∈ unseen n seen := by
            rw [testBit_without, Bool.and_eq_true] at hp
            simpa [unseen, Nat.lt_succ_iff, inside] using hp.2
          rw [← same] at old
          simp [unseen, hp] at old
      have := Finset.card_lt_card fewer
      omega

end Search

theorem frontier_start (n : Nat) (R : Nat → Nat → Prop) {s : Nat} (hs : Within n s) :
    Frontier n R s s where
  within := hs
  sub hi := hi
  closed hi old := by simp [hi] at old

theorem reach (h : Carries n f R) (m : Nat) :
    Carries n (fun s => Pattern.reach f m s s) (fun i j => ∃ k ≤ m, Steps R k i j) where
  le hi := fun ⟨_, _, steps⟩ =>
    steps.mem_of_closed (P := (· ≤ n)) (fun _ _ hi hij => h.le hi hij) hi
  testBit hs j := h.testBit_reach (frontier_start n R hs) m j

theorem reachAll (h : Carries n f R) :
    Carries n (fun s => Pattern.reach f (n + 1) s s) (fun i j => ∃ k, Steps R k i j) where
  le hi := fun ⟨_, steps⟩ =>
    steps.mem_of_closed (P := (· ≤ n)) (fun _ _ hi hij => h.le hi hij) hi
  testBit {s} hs j := by
    have front := frontier_start n R hs
    have bounded := h.testBit_reach front (n + 1)
    have rounds : (unseen n s).card ≤ n + 1 :=
      (Finset.card_filter_le _ _).trans_eq (Finset.card_range _)
    constructor
    · intro hj
      obtain ⟨i, hi, k, -, steps⟩ := (bounded j).1 hj
      exact ⟨i, hi, k, steps⟩
    · rintro ⟨i, hi, k, steps⟩
      exact steps.mem_of_closed (P := fun i => (Pattern.reach f (n + 1) s s).testBit i = true)
        (h.closed_reach front rounds) ((bounded i).2 ⟨i, hi, 0, Nat.zero_le _, rfl⟩)

/-! ## Runs through a mask -/

/-- One step over a character of the mask. -/
def Over (mask i j : Nat) : Prop := j = i + 1 ∧ mask.testBit i = true

/-- Whether a run through the mask gets to a position, from one of the set or, with a carry, from in
front of the first character. -/
def flows (mask s : Nat) (carry : Bool) : Nat → Bool
  | 0 => s.testBit 0 || carry
  | k + 1 => s.testBit (k + 1) || (flows mask s carry k && mask.testBit k)

theorem flows_succ (mask s : Nat) (carry : Bool) (k : Nat) :
    flows mask s carry (k + 1) =
      flows (mask / 2) (s / 2) ((s.testBit 0 || carry) && mask.testBit 0) k := by
  induction k with
  | zero => simp [flows, Nat.testBit_succ]
  | succ k ih =>
    rw [flows, ih]
    simp only [flows, Nat.testBit_succ]

theorem and_mod_two (a b : Nat) : (a &&& b) % 2 = a % 2 * (b % 2) := by
  have one := @Nat.and_mod_two_eq_one a b
  rcases Nat.mod_two_eq_zero_or_one a with ha | ha <;>
    rcases Nat.mod_two_eq_zero_or_one b with hb | hb <;> rw [ha, hb] at one ⊢ <;> omega

/-- The carry out of the lowest bit of the sum is the run over the first character. -/
theorem testBit_carried (mask s : Nat) (carry : Bool) (k : Nat) :
    (s ||| (((s &&& mask) + mask + carry.toNat) ^^^ mask)).testBit k = flows mask s carry k := by
  have low := and_mod_two s mask
  -- The sum without its lowest bit is the sum of the halves, with the carry out of that bit.
  induction k generalizing mask s carry with
  | zero =>
    rw [Nat.testBit_or, Nat.testBit_xor]
    simp only [flows, Nat.testBit_zero]
    rcases Nat.mod_two_eq_zero_or_one s with hs | hs <;>
      rcases Nat.mod_two_eq_zero_or_one mask with hm | hm <;> rw [hs, hm] at low <;>
      cases carry <;> simp [hs, hm, low, Nat.add_mod]
  | succ k ih =>
    have half : ((s &&& mask) + mask + carry.toNat) / 2 =
        (s / 2 &&& mask / 2) + mask / 2 +
          ((s.testBit 0 || carry) && mask.testBit 0).toNat := by
      rw [← Nat.and_div_two, Nat.testBit_zero, Nat.testBit_zero]
      rcases Nat.mod_two_eq_zero_or_one s with hs | hs <;>
        rcases Nat.mod_two_eq_zero_or_one mask with hm | hm <;> rw [hs, hm] at low <;>
        cases carry <;> simp [hs, hm] <;> omega
    rw [flows_succ, ← ih (mask / 2) (s / 2) _ (and_mod_two ..), Nat.testBit_succ, ← half,
      Nat.or_div_two, Nat.xor_div_two]

theorem flows_iff (mask s j : Nat) :
    flows mask s false j = true ↔ ∃ i, s.testBit i = true ∧ ∃ k, Steps (Over mask) k i j := by
  constructor
  · intro h
    induction j with
    | zero => exact ⟨0, by simpa [flows] using h, 0, rfl⟩
    | succ j ih =>
      simp only [flows, Bool.or_eq_true, Bool.and_eq_true] at h
      rcases h with start | ⟨before, member⟩
      · exact ⟨j + 1, start, 0, rfl⟩
      · obtain ⟨i, hi, k, steps⟩ := ih before
        exact ⟨i, hi, k + 1, steps.append (l := 1) ⟨j + 1, ⟨rfl, member⟩, rfl⟩⟩
  · rintro ⟨i, hi, k, steps⟩
    refine steps.mem_of_closed (P := fun i => flows mask s false i = true) ?_ ?_
    · rintro i _ reached ⟨rfl, member⟩
      simp [flows, reached, member]
    · cases i <;> simp [flows, hi]

/-- Any number of steps over characters of a mask at once. -/
theorem run {mask : Nat} (h : Carries n (fun s => (s &&& mask) <<< 1) R) :
    Carries n (Pattern.run mask) (fun i j => ∃ k, Steps R k i j) := by
  have crosses {i : Nat} (hi : i ≤ n) (j : Nat) : R i j ↔ Over mask i j := by
    rw [h.iff_testBit hi]
    simp only [Over, Nat.testBit_shiftLeft, Nat.testBit_and, Nat.testBit_two_pow, Bool.and_eq_true,
      decide_eq_true_eq]
    constructor
    · rintro ⟨after, same, inside⟩
      exact ⟨by omega, same ▸ inside⟩
    · rintro ⟨rfl, inside⟩
      exact ⟨by omega, by omega, by simpa using inside⟩
  have steps {k i j : Nat} (hi : i ≤ n) : Steps R k i j ↔ Steps (Over mask) k i j := by
    induction k generalizing i with
    | zero => rfl
    | succ k ih =>
      refine exists_congr fun m => ?_
      rw [crosses hi]
      refine and_congr_right fun step => ih (h.le hi ((crosses hi m).2 step))
  have sum (s j : Nat) : (Pattern.run mask s).testBit j = flows mask s false j :=
    testBit_carried mask s false j
  refine ⟨fun hi => ?_, fun hs j => ?_⟩
  · rintro ⟨k, walk⟩
    exact walk.mem_of_closed (P := (· ≤ n)) (fun _ _ hi hij => h.le hi hij) hi
  · rw [sum, flows_iff]
    exact exists_congr fun i => and_congr_right fun hi =>
      exists_congr fun k => (steps (hs i hi)).symm

end Carries

end DataGrid.Pattern
