import DataGrid.Sort.Runs

/-!
# Partitioning

A list is partitioned by an element in the middle of a few others, its pivot; both parts keep the
order in which their elements were. After a fixed number of partitions a part is sorted by its
runs instead.
-/

namespace DataGrid.Sort

variable {α : Type u}

/-- The position with the middle one of three elements. -/
def middleOf (lessAt : Nat → Nat → Bool) (a b c : Nat) : Nat :=
  let x := lessAt a b
  if x == lessAt a c then (if lessAt b c == x then b else c) else a

/-- A position with an element about the middle of those in three sections of length `n`. -/
def middleOfSections (lessAt : Nat → Nat → Bool) (n a b c : Nat) : Nat :=
  if 8 ≤ n then
    let k := n / 8
    let sample (s : Nat) := middleOfSections lessAt k s (s + 4 * k) (s + 7 * k)
    middleOf lessAt (sample a) (sample b) (sample c)
  else middleOf lessAt a b c
termination_by n
decreasing_by all_goals omega

/-- The position of the pivot. -/
def pivotIndex (less : α → α → Bool) (l : List α) : Nat :=
  let items := l.toArray
  let lessAt (i j : Nat) : Bool :=
    match items[i]?, items[j]? with
    | some x, some y => less x y
    | _, _ => false
  let k := items.size / 8
  middleOfSections lessAt k 0 (4 * k) (7 * k)

/-- The elements that go left and the others; the one at position `i` is told where to go. -/
def partitionAt (left : α → Bool) (i : Nat) (goes : Bool) (l : List α) : List α × List α :=
  let (before, after) := (l.take i, l.drop i)
  let (mine, after) := (after.take 1, after.drop 1)
  let (bl, br) := before.partition left
  let (al, ar) := after.partition left
  if goes then (bl ++ mine ++ al, br ++ ar) else (bl ++ al, br ++ mine ++ ar)

/-- Sorts by partitions, at most `limit` of them around each other. The elements are known to be
not less than `bound`; if the pivot is not greater, what equals it is already in its place. -/
def quicksort? (less : α → α → Bool) : Nat → Option α → List α → Option (List α)
  | limit, bound, l =>
    if l.length ≤ smallLimit then sortSmall? less l
    else match limit with
    | 0 => sortRuns? less true (sortSmall? less) l
    | limit + 1 =>
      let i := pivotIndex less l
      match l[i]? with
      | none => some l
      | some p =>
        let parts :=
          if bound.any (!less · p) then ([], l) else partitionAt (less · p) i false l
        match parts with
        | ([], _) => do
          let (same, greater) := partitionAt (!less p ·) i true l
          return same ++ (← quicksort? less limit none greater)
        | (smaller, rest) => do
          return (← quicksort? less limit bound smaller) ++ (← quicksort? less limit (some p) rest)

theorem partitionAt_perm (left : α → Bool) (i : Nat) (goes : Bool) (l : List α) :
    ((partitionAt left i goes l).1 ++ (partitionAt left i goes l).2).Perm l := by
  classical
  have parts (l : List α) (x : α) :
      ((l.filter left) ++ l.filter (not ∘ left)).count x = l.count x :=
    (List.filter_append_perm left l).count_eq x
  have whole : l.take i ++ ((l.drop i).take 1 ++ (l.drop i).drop 1) = l := by
    rw [List.take_append_drop, List.take_append_drop]
  refine .trans ?_ (.of_eq whole)
  rw [List.perm_iff_count]
  intro x
  have h₁ := parts (l.take i) x
  have h₂ := parts ((l.drop i).drop 1) x
  cases goes <;>
    simp only [partitionAt, List.partition_eq_filter_filter, List.count_append, if_true,
      Bool.false_eq_true, if_false] at * <;>
    omega

theorem quicksort?_perm (less : α → α → Bool) (limit : Nat) (bound : Option α) :
    Permutes (quicksort? less limit bound) := by
  have small : Permutes (sortSmall? less) := fun _ _ => sortSmall?_perm
  induction limit generalizing bound with
  | zero =>
    intro l m hm
    unfold quicksort? at hm
    split at hm
    · exact small l m hm
    · exact sortRuns?_perm small l m hm
  | succ limit ih =>
    intro l m hm
    unfold quicksort? at hm
    split at hm
    · exact small l m hm
    · dsimp only at hm
      split at hm
      · exact .of_eq (Option.some.inj hm).symm
      · next p _ =>
        split at hm
        · obtain ⟨later, sorted, same⟩ := Option.bind_eq_some_iff.1 hm
          obtain rfl := Option.some.inj same
          exact ((ih _ _ _ sorted).append_left _).trans (partitionAt_perm ..)
        · next smaller rest _ e =>
          obtain ⟨first, sorted, hm⟩ := Option.bind_eq_some_iff.1 hm
          obtain ⟨second, sorted', same⟩ := Option.bind_eq_some_iff.1 hm
          obtain rfl := Option.some.inj same
          refine ((ih _ _ _ sorted).append (ih _ _ _ sorted')).trans ?_
          split at e
          · simp_all
          · have := partitionAt_perm (less · p) (pivotIndex less l) false l
            rwa [e] at this

end DataGrid.Sort
