import DataGrid.Proofs.Sort.Runs
import DataGrid.Sort.Stable

/-!
# The stable sort

Partitioning keeps the order within both parts, so sorting the parts gives the stable order. The
main statement is that the sort does not give up, and agrees with the library's stable merge sort,
whenever the comparison is a total preorder on the elements of the list.
-/

namespace DataGrid.Sort

variable {α : Type u} {rank : α → Nat} {less : α → α → Bool}

/-- A pivot that is sent to the side its test names changes nothing in a partition. -/
theorem partitionAt_eq {left : α → Bool} {i : Nat} {goes : Bool} {l : List α}
    (h : ∀ x, l[i]? = some x → left x = goes) :
    partitionAt left i goes l = (l.filter left, l.filter (!left ·)) := by
  have whole : l.take i ++ ((l.drop i).take 1 ++ (l.drop i).drop 1) = l := by
    rw [List.take_append_drop, List.take_append_drop]
  have mine : ∀ x ∈ (l.drop i).take 1, left x = goes := by
    intro x hx
    rw [List.take_one, List.head?_drop] at hx
    exact h x (by simpa using hx)
  have parts (p : α → Bool) : l.filter p =
      (l.take i).filter p ++ (((l.drop i).take 1).filter p ++ ((l.drop i).drop 1).filter p) := by
    rw [← List.filter_append, ← List.filter_append, whole]
  unfold partitionAt
  simp only [List.partition_eq_filter_filter]
  cases goes with
  | true =>
    have kept : ((l.drop i).take 1).filter left = (l.drop i).take 1 :=
      List.filter_eq_self.2 mine
    have gone : ((l.drop i).take 1).filter (!left ·) = [] :=
      List.filter_eq_nil_iff.2 fun x hx => by simp [mine x hx]
    rw [parts left, parts (!left ·), kept, gone]
    simp [Function.comp_def]
  | false =>
    have kept : ((l.drop i).take 1).filter (!left ·) = (l.drop i).take 1 :=
      List.filter_eq_self.2 fun x hx => by simp [mine x hx]
    have gone : ((l.drop i).take 1).filter left = [] :=
      List.filter_eq_nil_iff.2 fun x hx => by simp [mine x hx]
    rw [parts left, parts (!left ·), kept, gone]
    simp [Function.comp_def]

/-- A part that holds the least rank only, in front of the rest in stable order. -/
theorem sorts_least_append {l m : List α} {p : α} (h : Ranks less rank l) (hp : p ∈ l)
    (least : ∀ a ∈ l, rank p ≤ rank a) (hm : Sorts rank (l.filter fun a => !!less p a) m) :
    Sorts rank l (l.filter (!less p ·) ++ m) := by
  have same : ∀ a ∈ l.filter (!less p ·), rank a = rank p := by
    intro a ha
    obtain ⟨ha, test⟩ := List.mem_filter.1 ha
    have := h.le (a := a) (b := p) ha hp (by simpa using test)
    have := least a ha
    omega
  have rises : Rising rank (l.filter (!less p ·)) :=
    List.pairwise_of_forall_mem_list fun a ha b hb => by simp [same a ha, same b hb]
  refine ((Sorts.of_rising rises).append hm fun a ha b hb => ?_).trans_alike ?_
  · rw [same a ha]
    exact least b (List.mem_filter.1 hb).1
  · refine Alike.filter_append fun a ha b hb e => ?_
    simp [h p hp a ha, h p hp b hb, e]

theorem middleOf_cases (lessAt : Nat → Nat → Bool) (a b c : Nat) :
    middleOf lessAt a b c = a ∨ middleOf lessAt a b c = b ∨ middleOf lessAt a b c = c := by
  unfold middleOf
  grind

/-- The sampled position lies in one of the three sections. -/
theorem middleOfSections_mem (lessAt : Nat → Nat → Bool) {n a b c : Nat} (hn : 0 < n) :
    ∃ s, (s = a ∨ s = b ∨ s = c) ∧ s ≤ middleOfSections lessAt n a b c ∧
      middleOfSections lessAt n a b c < s + n := by
  induction n using Nat.strongRecOn generalizing a b c with
  | _ n ih =>
    unfold middleOfSections
    split
    · next big =>
      have sample (s : Nat) : s ≤ middleOfSections lessAt (n / 8) s (s + 4 * (n / 8)) (s + 7 * (n / 8))
          ∧ middleOfSections lessAt (n / 8) s (s + 4 * (n / 8)) (s + 7 * (n / 8)) < s + n := by
        obtain ⟨t, ht, le, lt⟩ := ih (n / 8) (by omega) (a := s) (b := s + 4 * (n / 8))
          (c := s + 7 * (n / 8)) (by omega)
        omega
      dsimp only
      rcases middleOf_cases lessAt _ _ _ with e | e | e
      · exact ⟨a, .inl rfl, by rw [e]; exact sample a⟩
      · exact ⟨b, .inr (.inl rfl), by rw [e]; exact sample b⟩
      · exact ⟨c, .inr (.inr rfl), by rw [e]; exact sample c⟩
    · rcases middleOf_cases lessAt a b c with e | e | e
      · exact ⟨a, .inl rfl, by omega⟩
      · exact ⟨b, .inr (.inl rfl), by omega⟩
      · exact ⟨c, .inr (.inr rfl), by omega⟩

theorem pivotIndex_lt {l : List α} (h : 8 ≤ l.length) : pivotIndex less l < l.length := by
  unfold pivotIndex
  dsimp only
  have inside := middleOfSections_mem (n := l.toArray.size / 8) (a := 0)
    (b := 4 * (l.toArray.size / 8)) (c := 7 * (l.toArray.size / 8))
  simp only [List.size_toArray] at inside ⊢
  obtain ⟨s, hs, le, lt⟩ := inside _ (by omega)
  refine Nat.lt_of_lt_of_le lt ?_
  omega

/-- A long list is partitioned by one of its elements. If that is no greater than the bound, or
nothing is less, what is not greater is in its place. -/
theorem quicksort?_succ (limit : Nat) (bound : Option α) {l : List α} (h : Ranks less rank l)
    (long : smallLimit < l.length) :
    ∃ p ∈ l, quicksort? less (limit + 1) bound l =
      if bound.any (!less · p) = true ∨ l.filter (less · p) = [] then do
        return l.filter (!less p ·) ++
          (← quicksort? less limit none (l.filter fun a => !!less p a))
      else do
        return (← quicksort? less limit bound (l.filter (less · p))) ++
          (← quicksort? less limit (some p) (l.filter (!less · p))) := by
  have inside : pivotIndex less l < l.length := pivotIndex_lt (Nat.le_trans (by decide) long)
  have hp : l[pivotIndex less l] ∈ l := List.getElem_mem inside
  have self : less l[pivotIndex less l] l[pivotIndex less l] = false := by simp [h _ hp _ hp]
  refine ⟨l[pivotIndex less l], hp, ?_⟩
  have here := List.getElem?_eq_getElem inside
  generalize l[pivotIndex less l] = p at here self
  have left : partitionAt (less · p) (pivotIndex less l) false l =
      (l.filter (less · p), l.filter (!less · p)) :=
    partitionAt_eq fun x hx => by grind
  have right : partitionAt (!less p ·) (pivotIndex less l) true l =
      (l.filter (!less p ·), l.filter fun a => !!less p a) :=
    partitionAt_eq fun x hx => by grind
  rw [quicksort?, if_neg (Nat.not_le.2 long)]
  dsimp only
  rw [here]
  dsimp only
  rw [left, right]
  dsimp only
  by_cases any : bound.any (!less · p) = true
  · rw [if_pos any, if_pos (.inl any)]
  · rw [if_neg any]
    by_cases nothing : l.filter (less · p) = []
    · rw [if_pos (.inr nothing), nothing]
    · rw [if_neg (by simp [any, nothing])]
      split
      · next e => exact absurd (congrArg Prod.fst e) nothing
      · next e =>
        obtain ⟨rfl, rfl⟩ := Prod.mk.inj e
        rfl

theorem sorts_quicksort? {limit : Nat} (bound : Option α) {l : List α}
    (h : Ranks less rank (bound.toList ++ l)) (least : ∀ b ∈ bound, ∀ a ∈ l, rank b ≤ rank a) :
    ∃ m, quicksort? less limit bound l = some m ∧ Sorts rank l m := by
  induction limit generalizing bound l with
  | zero =>
    have hl : Ranks less rank l := h.mono (List.subset_append_right _ _)
    unfold quicksort?
    split
    · exact sorts_sortSmall? hl
    · exact sorts_sortRuns? hl fun m hm => sorts_sortSmall? (hl.mono hm)
  | succ limit ih =>
    have hl : Ranks less rank l := h.mono (List.subset_append_right _ _)
    by_cases short : l.length ≤ smallLimit
    · rw [quicksort?, if_pos short]
      exact sorts_sortSmall? hl
    obtain ⟨p, hp, step⟩ := quicksort?_succ limit bound hl
      (Nat.not_le.1 short)
    rw [step]
    split
    · next first =>
      have hle : ∀ a ∈ l, rank p ≤ rank a := by
        intro a ha
        rcases first with any | nothing
        · obtain ⟨b, rfl, le⟩ := (Option.any_eq_true _ _).1 any
          have := h.le (a := p) (b := b) (by simp [hp]) (by simp) (by simpa using le)
          have := least b rfl a ha
          omega
        · exact hl.le hp ha (List.filter_eq_nil_iff.1 nothing a ha)
      obtain ⟨m, sorted, sorts⟩ := ih none (l := l.filter fun a => !!less p a)
        (hl.mono List.filter_sublist.subset) (by simp)
      rw [sorted]
      exact ⟨_, rfl, sorts_least_append hl hp hle sorts⟩
    · obtain ⟨m, sorted, smaller⟩ := ih bound (l := l.filter (less · p))
        (h.mono (List.append_subset.2 ⟨by simp, fun a ha => by grind⟩))
        fun b hb a ha => least b hb a (List.mem_filter.1 ha).1
      obtain ⟨m', sorted', rest⟩ := ih (some p) (l := l.filter (!less · p))
        (hl.mono (List.cons_subset.2 ⟨hp, List.filter_sublist.subset⟩)) (by
          intro b hb a ha
          obtain rfl := Option.some.inj hb
          obtain ⟨ha, test⟩ := List.mem_filter.1 ha
          exact hl.le hp ha (by simpa using test))
      rw [sorted, sorted']
      refine ⟨_, rfl, (smaller.append rest fun a ha b hb => ?_).trans_alike ?_⟩
      · obtain ⟨ha, lt⟩ := List.mem_filter.1 ha
        obtain ⟨hb, test⟩ := List.mem_filter.1 hb
        have := hl.lt ha hp lt
        have := hl.le (a := p) (b := b) hp hb (by simpa using test)
        omega
      · refine Alike.filter_append fun a ha b hb e => ?_
        simp [hl a ha p hp, hl b hb p hp, e]

/-! ## The sort -/

theorem sorts_stableSort? {l : List α} (h : Ranks less rank l) :
    ∃ m, stableSort? less l = some m ∧ Sorts rank l m := by
  unfold stableSort?
  split
  · exact ⟨_, rfl, sorts_extend h .nil⟩
  · split
    · exact sorts_sortRuns? h fun m hm => sorts_sortSmall? (h.mono hm)
    · refine sorts_sortRuns? h fun m hm => sorts_quicksort? none ?_ (by simp)
      exact h.mono (by simpa using hm)

/-- By a comparison that is a total preorder on a list, it is sorted as by the stable merge sort. -/
theorem stableSort?_eq_mergeSort {cmp : α → α → Ordering} {l : List α} (h : TotalPreorder cmp l) :
    stableSort? (fun a b => cmp a b == .lt) l = some (l.mergeSort fun a b => cmp a b != .gt) := by
  have same : ∀ a ∈ l, ∀ b ∈ l,
      decide (countBefore cmp l a ≤ countBefore cmp l b) = (cmp a b != .gt) := by
    intro a ha b hb
    rw [Bool.eq_iff_iff, decide_eq_true_iff, ← h.le_iff ha hb, bne_iff_ne]
  obtain ⟨m, sorted, sorts⟩ := sorts_stableSort? h.ranks
  rw [sorted, sorts.eq (sorts_mergeSort _ l)]
  exact congrArg some (by simpa using List.map_mergeSort (f := id) same)

/-- What a total preorder sorts does not go down. -/
theorem pairwise_stableSort? {cmp : α → α → Ordering} {l m : List α} (h : TotalPreorder cmp l)
    (sorted : stableSort? (fun a b => cmp a b == .lt) l = some m) :
    m.Pairwise fun a b => cmp a b ≠ .gt := by
  obtain ⟨m', sorted', sorts⟩ := sorts_stableSort? h.ranks
  obtain rfl := Option.some.inj (sorted.symm.trans sorted')
  exact sorts.rising.imp_of_mem fun ha hb le =>
    (h.le_iff (sorts.mem_iff.1 ha) (sorts.mem_iff.1 hb)).2 le

end DataGrid.Sort
