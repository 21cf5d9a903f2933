import DataGrid.Proofs.Paging.Tour

/-!
# Pages stay inside the result

An order may be any function, so the list in which a page is looked for need not be sorted at all,
and page numbers and anchors come from a client. Of two binary searches the one with the weaker test
still ends no earlier: they go together up to a step at which only this one goes right, and from
there on their ranges share one position at most (`bisect_le_bisect`). Main statement: every page is
also found if negative differences and ranges outside their lists are refused, and is a part of its
list.
-/

namespace DataGrid

variable {α : Type u}

/-! ## Two searches -/

theorem bisect_bounds (p : Nat → Bool) (base : Nat) {size : Nat} (hs : 0 < size) :
    base ≤ bisect p base size ∧ bisect p base size < base + size := by
  fun_induction bisect p base size with
  | case1 base size lt half ih =>
    have inside := ih (by omega)
    split at inside
    · next t => rw [if_pos t]; omega
    · next t => rw [if_neg t]; omega
  | case2 base size lt => omega

theorem bisect_le_bisect {p q : Nat → Bool} (h : ∀ i, p i = true → q i = true) (base size : Nat) :
    bisect p base size ≤ bisect q base size := by
  fun_induction bisect p base size with
  | case1 base size lt half ih =>
    rw [bisect.eq_def q, if_pos lt]
    change _ ≤ bisect q (if q (base + half) = true then base + half else base) (size - half)
    split at ih
    · next t =>
      rw [if_pos t, if_pos (h _ t)]
      exact ih
    · next t =>
      rw [if_neg t]
      split
      · -- Here the searches part, and each stays in its own part.
        have rest : 0 < size - half := by omega
        have left := (bisect_bounds p base rest).2
        have right := (bisect_bounds q (base + half) rest).1
        omega
      · exact ih
  | case2 base size lt =>
    have stop : bisect q base size = base := by rw [bisect.eq_def q, if_neg lt]
    exact Nat.le_of_eq stop.symm

theorem partitionPoint_le_size (p : α → Bool) (l : Array α) : partitionPoint p l ≤ l.size := by
  unfold partitionPoint
  dsimp only
  split
  · exact Nat.zero_le _
  · next e =>
    have pos : 0 < l.size := Nat.pos_of_ne_zero (by simpa using e)
    have inside := (bisect_bounds (fun i => l[i]?.any p) 0 pos).2
    split <;> omega

/-- Where a test that passes more elements ends no earlier, whether or not the elements that pass
come first. -/
theorem partitionPoint_mono {p q : α → Bool} (h : ∀ a, p a = true → q a = true) (l : Array α) :
    partitionPoint p l ≤ partitionPoint q l := by
  have test (i : Nat) (hi : l[i]?.any p = true) : l[i]?.any q = true := by
    cases found : l[i]? with
    | none => simp [found] at hi
    | some a => exact h a (by simpa [found] using hi)
  have ends := bisect_le_bisect test 0 l.size
  unfold partitionPoint
  dsimp only
  split
  · exact Nat.le_refl 0
  · rcases Nat.lt_or_eq_of_le ends with lt | same
    · split <;> split <;> omega
    · rw [← same]
      split
      · next passed => exact Nat.le_of_eq (if_pos (test _ passed)).symm
      · split <;> omega

/-! ## Checked operations -/

/-- The difference of two numbers, unless it is negative. -/
def difference? (m n : Nat) : Option Nat := if n ≤ m then some (m - n) else none

/-- The elements at the positions from `i` up to `j`, if `i ≤ j` and there are so many elements. -/
def slice? (l : List α) (i j : Nat) : Option (List α) :=
  if i ≤ j ∧ j ≤ l.length then some ((l.drop i).take (j - i)) else none

theorem difference?_of_le {m n : Nat} (h : n ≤ m) : difference? m n = some (m - n) := if_pos h

theorem slice?_of_le {l : List α} {i j : Nat} (hij : i ≤ j) (hj : j ≤ l.length) :
    slice? l i j = some ((l.drop i).take (j - i)) := if_pos ⟨hij, hj⟩

namespace Paging

/-- Where a search finds the first entry that is not before `x`. -/
def tiesFrom (o : EntryOrder) (entries : List Entry) (x : Entry) : Nat :=
  partitionPoint (fun e => o.compare e x == .lt) entries.toArray

/-- Where a search finds the first entry that is after `x`. -/
def tiesTo (o : EntryOrder) (entries : List Entry) (x : Entry) : Nat :=
  partitionPoint (fun e => o.compare e x != .gt) entries.toArray

/-- As `positionAfter`, with a check that there is the range in which the key is looked for. The sum
needs none: it is at most the length of the list. -/
def positionAfter? (o : EntryOrder) (entries : List Entry) (a : Anchor) : Option Nat := do
  let start := tiesFrom o entries a.entry
  let stop := tiesTo o entries a.entry
  let ties ← slice? entries start stop
  match ties.findIdx? (·.key == a.entry.key) with
  | some i => return start + i + 1
  | none => return stop

/-- As `pageOfSorted`, with a check of every difference and every range. -/
def pageOfSorted? (p : Paging) (sorted : List Entry) : Option (List Entry) := do
  let (start, skipped) ← match p.nearestAnchor? with
    | some a =>
      let start ← positionAfter? p.order sorted a
      let pages ← difference? p.page a.page
      pure (start, ← difference? pages 1)
    | none => pure (0, p.page)
  let start := saturatingAdd start (saturatingMul skipped p.size)
  if sorted.length ≤ start then return []
  slice? sorted start (min (saturatingAdd start p.size) sorted.length)

theorem tiesFrom_le_tiesTo (o : EntryOrder) (entries : List Entry) (x : Entry) :
    tiesFrom o entries x ≤ tiesTo o entries x := by
  apply partitionPoint_mono
  intro e before
  simp_all

theorem tiesTo_le_length (o : EntryOrder) (entries : List Entry) (x : Entry) :
    tiesTo o entries x ≤ entries.length :=
  partitionPoint_le_size _ _

theorem positionAfter_eq_match (o : EntryOrder) (entries : List Entry) (a : Anchor) :
    positionAfter o entries.toArray a =
      match ((entries.drop (tiesFrom o entries a.entry)).take
        (tiesTo o entries a.entry - tiesFrom o entries a.entry)).findIdx? (·.key == a.entry.key) with
      | some i => tiesFrom o entries a.entry + i + 1
      | none => tiesTo o entries a.entry := rfl

theorem positionAfter?_eq (o : EntryOrder) (entries : List Entry) (a : Anchor) :
    positionAfter? o entries a = some (positionAfter o entries.toArray a) := by
  have ties :=
    slice?_of_le (tiesFrom_le_tiesTo o entries a.entry) (tiesTo_le_length o entries a.entry)
  unfold positionAfter?
  simp only [ties, Option.bind_eq_bind, Option.bind_some]
  rw [positionAfter_eq_match]
  split <;> rfl

theorem positionAfter_le_length (o : EntryOrder) (entries : List Entry) (a : Anchor) :
    positionAfter o entries.toArray a ≤ entries.length := by
  have ordered := tiesFrom_le_tiesTo o entries a.entry
  have inside := tiesTo_le_length o entries a.entry
  rw [positionAfter_eq_match]
  split
  · next i found =>
    have tied := (List.findIdx?_eq_some_iff_getElem.1 found).1
    simp only [List.length_take, List.length_drop] at tied
    change tiesFrom o entries a.entry + i + 1 ≤ entries.length
    omega
  · exact inside

/-! ## The page -/

variable {p : Paging} {sorted : List Entry} {a : Anchor}

theorem pageStart_of_some (h : p.nearestAnchor? = some a) :
    p.pageStart sorted.toArray =
      min (positionAfter p.order sorted.toArray a + (p.page - a.page - 1) * p.size) maxPosition := by
  simp only [pageStart, h, saturatingAdd, saturatingMul]
  omega

theorem pageStart_of_none (h : p.nearestAnchor? = none) :
    p.pageStart sorted.toArray = min (p.page * p.size) maxPosition := by
  simp only [pageStart, h, saturatingAdd, saturatingMul]
  omega

theorem pageOfSorted?_eq_slice? (p : Paging) (sorted : List Entry) :
    p.pageOfSorted? sorted =
      let start := p.pageStart sorted.toArray
      if sorted.length ≤ start then some []
      else slice? sorted start (min (saturatingAdd start p.size) sorted.length) := by
  unfold pageOfSorted? pageStart
  cases h : p.nearestAnchor? with
  | none => rfl
  | some a =>
    have before := (nearestAnchor?_spec h).2
    simp only [positionAfter?_eq, difference?_of_le (Nat.le_of_lt before),
      difference?_of_le (show 1 ≤ p.page - a.page by omega), Option.bind_eq_bind, Option.bind_some]
    rfl

theorem pageOfSorted?_eq (p : Paging) (sorted : List Entry) :
    p.pageOfSorted? sorted = some (p.pageOfSorted sorted) := by
  rw [pageOfSorted?_eq_slice?]
  dsimp only [pageOfSorted]
  split
  · next past => simp [List.drop_eq_nil_of_le past]
  · next inside =>
    have word : p.pageStart sorted.toArray ≤ maxPosition := Nat.min_le_right _ _
    exact slice?_of_le (by unfold saturatingAdd; omega) (Nat.min_le_right _ _)

theorem pageOfSorted_infix (p : Paging) (sorted : List Entry) :
    p.pageOfSorted sorted <:+: sorted :=
  (List.take_prefix _ _).isInfix.trans (List.drop_suffix _ _).isInfix

theorem length_pageOfSorted_le (p : Paging) (sorted : List Entry) :
    (p.pageOfSorted sorted).length ≤ p.size := by
  unfold pageOfSorted saturatingAdd
  simp only [List.length_take, List.length_drop]
  omega

/-- Whatever the order is, in whichever sequence it leaves the entries, whatever page is wanted and
whatever anchors have come with it: reading resumes inside the result, the position of the page
saturates, and the page is a part of the result that is found without a negative difference or a
range that is not in its list. -/
theorem page_stays_inside (p : Paging) (sorted : List Entry) :
    (∀ a : Anchor, tiesFrom p.order sorted a.entry ≤ tiesTo p.order sorted a.entry ∧
      tiesTo p.order sorted a.entry ≤ sorted.length ∧
      positionAfter p.order sorted.toArray a ≤ sorted.length) ∧
    (p.pageStart sorted.toArray =
      match p.nearestAnchor? with
      | some a =>
        min (positionAfter p.order sorted.toArray a + (p.page - a.page - 1) * p.size) maxPosition
      | none => min (p.page * p.size) maxPosition) ∧
    p.pageOfSorted? sorted = some (p.pageOfSorted sorted) ∧
    p.pageOfSorted sorted <:+: sorted ∧ (p.pageOfSorted sorted).length ≤ p.size := by
  refine ⟨fun a => ⟨tiesFrom_le_tiesTo _ _ _, tiesTo_le_length _ _ _, positionAfter_le_length _ _ _⟩,
    ?_, p.pageOfSorted?_eq sorted, p.pageOfSorted_infix sorted, p.length_pageOfSorted_le sorted⟩
  split
  · next a near => exact pageStart_of_some near
  · next none => exact pageStart_of_none none

end Paging

end DataGrid
