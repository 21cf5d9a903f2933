import DataGrid.Proofs.Sort.Merge
import DataGrid.Sort.Runs

/-!
# Sorting by runs keeps the stable order

A run that is found in a list rises, or falls strictly, so that turning it around moves no two
elements of one rank past each other. Joining neighbours, in whatever order the tree of merges asks
for, keeps what they are made of alike; a run is marked as sorted only when its ranks rise.
-/

namespace DataGrid.Sort

variable {α : Type u} {rank : α → Nat} {less : α → α → Bool}

/-- Every list within `l` is brought into stable order. -/
def SortsWithin (rank : α → Nat) (sort : List α → Option (List α)) (l : List α) : Prop :=
  ∀ m ⊆ l, ∃ s, sort m = some s ∧ Sorts rank m s

/-- The mark of a run tells the truth. -/
def Run.Honest (rank : α → Nat) (r : Run α) : Prop := r.sorted = true → Rising rank r.items

theorem Run.Honest.sorts_settle? {sort : List α → Option (List α)} {l : List α} {r : Run α}
    (h : r.Honest rank) (hs : SortsWithin rank sort l) (hr : r.items ⊆ l) :
    ∃ m, r.settle? sort = some m ∧ Sorts rank r.items m := by
  unfold Run.settle?
  split
  · next e => exact ⟨r.items, rfl, .of_rising (h e)⟩
  · exact hs _ hr

theorem Run.Honest.join? {sort : List α → Option (List α)} {l : List α} {r s : Run α}
    (hr : r.Honest rank) (hs : s.Honest rank) (h : Ranks less rank l)
    (sorts : SortsWithin rank sort l) (sub : r.items ++ s.items ⊆ l) :
    ∃ j, r.join? less sort s = some j ∧ j.Honest rank ∧ Alike rank j.items (r.items ++ s.items) := by
  obtain ⟨subr, subs⟩ := List.append_subset.1 sub
  unfold Run.join?
  split
  · obtain ⟨l', settled, left⟩ := hr.sorts_settle? sorts subr
    obtain ⟨r', settled', right⟩ := hs.sorts_settle? sorts subs
    have same := left.alike.append right.alike
    have merged := sorts_merge (h.mono fun a ha => sub (same.subset ha)) left.rising right.rising
    rw [settled, settled']
    exact ⟨_, rfl, fun _ => merged.rising, merged.alike.trans same⟩
  · exact ⟨_, rfl, fun e => absurd e (by simp), .refl _⟩

/-! ## Cutting -/

/-- The run from `x` on goes down strictly, or does not go down. -/
theorem stepsFrom_spec (down : Bool) {x : α} {n : Nat} {l : List α}
    (h : Ranks less rank (x :: l)) :
    ∃ k, stepsFrom less down x n l = n + k ∧
      (down = false → Rising rank (x :: l.take k)) ∧
      (down = true → (x :: l.take k).Pairwise fun a b => rank b < rank a) := by
  induction l generalizing x n with
  | nil => exact ⟨0, rfl, fun _ => by simp [Rising], fun _ => by simp⟩
  | cons y r ih =>
    unfold stepsFrom
    split
    · next e =>
      obtain ⟨k, hk, rises, falls⟩ := ih (x := y) (n := n + 1) (h.mono (by simp))
      refine ⟨k + 1, by omega, fun d => ?_, fun d => ?_⟩
      · subst d
        have xy : rank x ≤ rank y := h.le (by simp) (by simp) (by grind)
        refine List.pairwise_cons.2 ⟨fun b hb => ?_, rises rfl⟩
        exact Nat.le_trans xy ((rises rfl).head_le hb)
      · subst d
        have yx : rank y < rank x := h.lt (by simp) (by simp) (by grind)
        refine List.pairwise_cons.2 ⟨fun b hb => ?_, falls rfl⟩
        rcases List.mem_cons.1 hb with rfl | hb
        · exact yx
        · exact Nat.lt_trans ((List.pairwise_cons.1 (falls rfl)).1 b hb) yx
    · exact ⟨0, rfl, fun _ => by simp [Rising], fun _ => by simp⟩

theorem firstRun_spec {l : List α} (h : Ranks less rank l) :
    ((firstRun less l).2 = false → Rising rank (l.take (firstRun less l).1)) ∧
      ((firstRun less l).2 = true →
        (l.take (firstRun less l).1).Pairwise fun a b => rank b < rank a) := by
  match l with
  | [] | [x] => exact ⟨fun _ => by simp [firstRun, Rising], fun d => absurd d (by simp [firstRun])⟩
  | x :: y :: r =>
    obtain ⟨k, hk, rises, falls⟩ :=
      stepsFrom_spec (less y x) (n := 2) (h.mono (List.subset_cons_self x (y :: r)))
    dsimp only [firstRun]
    rw [hk, Nat.add_comm 2 k]
    refine ⟨fun d => ?_, fun d => ?_⟩
    · have xy : rank x ≤ rank y := h.le (by simp) (by simp) (by simp [d])
      refine List.pairwise_cons.2 ⟨fun b hb => ?_, rises d⟩
      exact Nat.le_trans xy ((rises d).head_le hb)
    · have yx : rank y < rank x := h.lt (by simp) (by simp) d
      refine List.pairwise_cons.2 ⟨fun b hb => ?_, falls d⟩
      rcases List.mem_cons.1 hb with rfl | hb
      · exact yx
      · exact Nat.lt_trans ((List.pairwise_cons.1 (falls d)).1 b hb) yx

/-- A list that falls strictly has at most one element of each rank. -/
theorem sorts_reverse {l : List α} (h : l.Pairwise fun a b => rank b < rank a) :
    Sorts rank l l.reverse := by
  refine ⟨rising_reverse.2 (h.imp Nat.le_of_lt), ?_⟩
  induction l with
  | nil => exact .refl _
  | cons x r ih =>
    obtain ⟨below, falls⟩ := List.pairwise_cons.1 h
    have passed : Alike rank (r.reverse ++ [x]) (x :: (r.reverse ++ [])) :=
      .middle fun a ha => Nat.ne_of_lt (below a (List.mem_reverse.1 ha))
    rw [List.append_nil] at passed
    simpa using passed.trans ((ih falls).cons x)

theorem cutRun_spec (good chunk n : Nat) {l : List α} (h : Ranks less rank l) :
    (cutRun less good chunk n l).1.Honest rank ∧
      Alike rank ((cutRun less good chunk n l).1.items ++ (cutRun less good chunk n l).2) l := by
  have cut {k : Nat} {items : List α} (same : Alike rank items (l.take k)) :
      Alike rank (items ++ l.drop k) l := by
    simpa using same.append (.refl (l.drop k))
  have found : ∀ f : Nat × Bool, f = firstRun less l ∨ f = (0, false) →
      (f.2 = false → Rising rank (l.take f.1)) ∧
        (f.2 = true → (l.take f.1).Pairwise fun a b => rank b < rank a) := by
    rintro f (rfl | rfl)
    · exact firstRun_spec h
    · exact ⟨fun _ => by simp [Rising], fun d => absurd d (by simp)⟩
  unfold cutRun
  specialize found (if good ≤ n then firstRun less l else (0, false)) (by split <;> simp)
  generalize (if good ≤ n then firstRun less l else (0, false)) = f at found
  obtain ⟨k, down⟩ := f
  obtain ⟨rises, falls⟩ := found
  dsimp only at rises falls ⊢
  split
  · cases down
    · exact ⟨fun _ => rises rfl, cut (.refl _)⟩
    · have turned := sorts_reverse (falls rfl)
      exact ⟨fun _ => turned.rising, cut turned.alike⟩
  · exact ⟨fun e => absurd e (by simp), cut (.refl _)⟩

theorem cutRuns_spec (good chunk fuel n : Nat) {l : List α} (h : Ranks less rank l) :
    (∀ r ∈ cutRuns less good chunk fuel n l, r.Honest rank) ∧
      Alike rank (itemsOf (cutRuns less good chunk fuel n l)) l := by
  fun_induction cutRuns less good chunk fuel n l with
  | case1 => exact ⟨by simp, .refl _⟩
  | case2 n l _ =>
    refine ⟨fun r hr => ?_, by simpa [itemsOf] using Alike.refl l⟩
    rw [List.mem_singleton.1 hr]
    exact fun e => absurd e (by simp)
  | case3 fuel n l _ r rest e ih =>
    obtain ⟨honest, same⟩ := cutRun_spec good chunk n h
    rw [e] at honest same
    obtain ⟨all, alike⟩ := ih (h.mono fun a ha => same.subset (List.mem_append_right _ ha))
    refine ⟨fun s hs => ?_, (Alike.append (.refl r.items) alike).trans same⟩
    rcases List.mem_cons.1 hs with rfl | hs
    · exact honest
    · exact all s hs

/-- Runs that are sorted at once. -/
theorem mapM_settle?_spec {sort : List α → Option (List α)} {l : List α} {rs : List (Run α)}
    (honest : ∀ r ∈ rs, r.Honest rank) (sorts : SortsWithin rank sort l) (sub : itemsOf rs ⊆ l) :
    ∃ ss, rs.mapM (fun r => (r.settle? sort).map fun items => (⟨items, true⟩ : Run α)) = some ss ∧
      (∀ s ∈ ss, s.Honest rank) ∧ Alike rank (itemsOf ss) (itemsOf rs) := by
  induction rs with
  | nil => exact ⟨[], rfl, by simp, .refl _⟩
  | cons r rs ih =>
    obtain ⟨first, later⟩ := List.append_subset.1 sub
    obtain ⟨items, settled, sorted⟩ :=
      (honest r List.mem_cons_self).sorts_settle? sorts first
    obtain ⟨ss, rest, all, same⟩ := ih (fun s hs => honest s (List.mem_cons_of_mem r hs)) later
    refine ⟨⟨items, true⟩ :: ss, by simp [List.mapM_cons, settled, rest], fun s hs => ?_,
      sorted.alike.append same⟩
    rcases List.mem_cons.1 hs with rfl | hs
    · exact fun _ => sorted.rising
    · exact all s hs

theorem runs?_spec {sort : List α → Option (List α)} {l : List α} (h : Ranks less rank l)
    (eager : Bool) (sorts : SortsWithin rank sort l) :
    ∃ rs, runs? less eager sort l = some rs ∧ (∀ r ∈ rs, r.Honest rank) ∧
      Alike rank (itemsOf rs) l := by
  have cut (chunk : Nat) := cutRuns_spec (goodLength l.length) chunk l.length l.length h
  unfold runs?
  dsimp only
  split
  · obtain ⟨honest, same⟩ := cut smallLimit
    obtain ⟨ss, settled, all, same'⟩ := mapM_settle?_spec honest sorts same.subset
    exact ⟨ss, settled, all, same'.trans same⟩
  · obtain ⟨honest, same⟩ := cut (goodLength l.length)
    exact ⟨_, rfl, honest, same⟩

/-! ## Joining -/

section Join

variable {sort : List α → Option (List α)} {L : List α}

theorem collapse?_spec (depth : Nat) {r : Run α} {before : List (Run α × Nat)}
    (h : Ranks less rank L) (sorts : SortsWithin rank sort L)
    (sub : itemsBefore before ++ r.items ⊆ L) (hr : r.Honest rank)
    (hb : ∀ p ∈ before, p.1.Honest rank) :
    ∃ c, collapse? (Run.join? less sort) depth r before = some c ∧
      c.1.Honest rank ∧ (∀ p ∈ c.2, p.1.Honest rank) ∧
      Alike rank (itemsBefore c.2 ++ c.1.items) (itemsBefore before ++ r.items) := by
  induction before generalizing r with
  | nil => exact ⟨_, rfl, hr, hb, .refl _⟩
  | cons p before ih =>
    obtain ⟨l, d⟩ := p
    have whole : itemsBefore ((l, d) :: before) ++ r.items =
        itemsBefore before ++ (l.items ++ r.items) := by simp [itemsBefore]
    unfold collapse?
    split
    · have near : l.items ++ r.items ⊆ L := by
        rw [whole] at sub
        exact (List.append_subset.1 sub).2
      obtain ⟨j, joined, honest, same⟩ := (hb (l, d) (by simp)).join? hr h sorts near
      have alike := Alike.append (.refl (itemsBefore before)) same
      obtain ⟨c, collapsed, h₁, h₂, h₃⟩ := ih
        (fun a ha => sub (by rw [whole]; exact alike.subset ha)) honest
        fun p hp => hb p (List.mem_cons_of_mem _ hp)
      rw [joined]
      exact ⟨c, collapsed, h₁, h₂, by rw [whole]; exact h₃.trans alike⟩
    · exact ⟨_, rfl, hr, hb, .refl _⟩

theorem joinRuns?_spec (n start : Nat) (before : List (Run α × Nat)) {r : Run α}
    {rest : List (Run α)} (h : Ranks less rank L) (sorts : SortsWithin rank sort L)
    (sub : itemsBefore before ++ r.items ++ itemsOf rest ⊆ L) (hr : r.Honest rank)
    (hb : ∀ p ∈ before, p.1.Honest rank) (hrest : ∀ s ∈ rest, s.Honest rank) :
    ∃ s, joinRuns? (Run.join? less sort) n start r before rest = some s ∧ s.Honest rank ∧
      Alike rank s.items (itemsBefore before ++ r.items ++ itemsOf rest) := by
  induction rest generalizing start r before with
  | nil =>
    obtain ⟨c, collapsed, honest, -, same⟩ :=
      collapse?_spec 0 h sorts (List.append_subset.1 sub).1 hr hb
    rw [collapse?_zero collapsed] at same
    refine ⟨c.1, by rw [joinRuns?, collapsed]; rfl, honest, ?_⟩
    simpa [itemsOf, itemsBefore] using same
  | cons next rest ih =>
    unfold joinRuns?
    dsimp only
    generalize mergeDepth n start (start + r.items.length)
      (start + r.items.length + next.items.length) = depth
    obtain ⟨⟨left, before'⟩, collapsed, honest, all, same⟩ :=
      collapse?_spec depth h sorts (List.append_subset.1 sub).1 hr hb
    have whole : Alike rank (itemsBefore ((left, depth) :: before') ++ next.items ++ itemsOf rest)
        (itemsBefore before ++ r.items ++ itemsOf (next :: rest)) := by
      simpa [itemsBefore, itemsOf] using same.append (.refl (next.items ++ itemsOf rest))
    have closed : ∀ p ∈ (left, depth) :: before', p.1.Honest rank := by
      intro p hp
      rcases List.mem_cons.1 hp with rfl | hp
      · exact honest
      · exact all p hp
    obtain ⟨s, joined, h₁, h₂⟩ := ih (start + r.items.length) (_ :: before') (r := next)
      (fun a ha => sub (whole.subset ha)) (hrest next (by simp)) closed
      fun s hs => hrest s (List.mem_cons_of_mem _ hs)
    rw [collapsed]
    exact ⟨s, joined, h₁, h₂.trans whole⟩

end Join

theorem sorts_sortRuns? {eager : Bool} {sort : List α → Option (List α)} {l : List α}
    (h : Ranks less rank l) (sorts : SortsWithin rank sort l) :
    ∃ m, sortRuns? less eager sort l = some m ∧ Sorts rank l m := by
  obtain ⟨rs, cut, honest, same⟩ := runs?_spec h eager sorts
  unfold sortRuns?
  rw [cut]
  dsimp only [Option.bind_eq_bind, Option.bind_some]
  cases rs with
  | nil => exact ⟨[], rfl, .nil, same⟩
  | cons r rest =>
    have whole : itemsBefore ([] : List (Run α × Nat)) ++ r.items ++ itemsOf rest =
        itemsOf (r :: rest) := by simp [itemsBefore, itemsOf]
    obtain ⟨s, joined, h₁, h₂⟩ := joinRuns?_spec l.length 0 [] h sorts
      (by rw [whole]; exact same.subset) (honest r (by simp)) (by simp)
      fun s hs => honest s (List.mem_cons_of_mem _ hs)
    rw [whole] at h₂
    have alike := h₂.trans same
    obtain ⟨m, settled, sorted⟩ := h₁.sorts_settle? sorts alike.subset
    dsimp only
    rw [joined]
    exact ⟨m, settled, sorted.trans_alike alike⟩

end DataGrid.Sort
