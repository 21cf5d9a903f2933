import DataGrid.Paging.Page
import DataGrid.Proofs.Sort.Rank

/-!
# Positions in a sorted result

A binary search for a test that holds on a front part of an array finds the length of that part.
The two searches for an anchor therefore enclose the run of entries that compare equal to it, and
with distinct keys the position after an anchor is the one right behind its own entry.
-/

namespace DataGrid

variable {α : Type u}

/-! ## Searching -/

theorem bisect_eq {p : Nat → Bool} {k base size : Nat} (hs : 0 < size)
    (h : ∀ i, base ≤ i → i < base + size → (p i = true ↔ i < k)) (hk : k ≤ base + size) :
    bisect p base size = max base (k - 1) := by
  fun_induction bisect p base size with
  | case1 base size hlt half ih =>
    have hm : p (base + half) = true ↔ base + half < k := h _ (by omega) (by omega)
    split at ih
    · next t =>
      rw [if_pos t]
      have := hm.1 t
      rw [ih (by omega) (fun i hi hj => h i (by omega) (by omega)) (by omega)]
      omega
    · next t =>
      rw [if_neg t]
      have : ¬ base + half < k := fun lt => t (hm.2 lt)
      exact ih (by omega) (fun i hi hj => h i hi (by omega)) (by omega)
  | case2 base size hlt => omega

theorem partitionPoint_eq {p : α → Bool} {l : Array α} {k : Nat} (hk : k ≤ l.size)
    (h : ∀ i (hi : i < l.size), p l[i] = true ↔ i < k) : partitionPoint p l = k := by
  have test (i : Nat) (hi : i < l.size) : l[i]?.any p = true ↔ i < k := by
    rw [Array.getElem?_eq_getElem hi]
    exact h i hi
  unfold partitionPoint
  dsimp only
  split
  · next e =>
    have : l.size = 0 := by simpa using e
    omega
  · next e =>
    have pos : 0 < l.size := Nat.pos_of_ne_zero (by simpa using e)
    rw [bisect_eq pos (fun i _ hi => test i (by omega)) (by omega)]
    split
    · next t => have := (test _ (by omega)).1 t; omega
    · next t =>
      have : ¬ max 0 (k - 1) < k := fun lt => t ((test _ (by omega)).2 lt)
      omega

/-- A test that fails behind any failure holds exactly at the positions below its count. -/
theorem getElem_iff_lt_countP {p : α → Bool} {l : List α}
    (h : l.Pairwise fun a b => p b = true → p a = true) (i : Nat) (hi : i < l.length) :
    p l[i] = true ↔ i < l.countP p := by
  induction l generalizing i with
  | nil => exact absurd hi (Nat.not_lt_zero i)
  | cons a l ih =>
    obtain ⟨front, rest⟩ := List.pairwise_cons.1 h
    by_cases ha : p a = true
    · cases i with
      | zero => simp [ha]
      | succ i => simpa [ha] using ih rest i (by simpa using hi)
    · have none : l.countP p = 0 :=
        List.countP_eq_zero.2 fun b hb t => ha (front b hb t)
      cases i with
      | zero => simp [ha, none]
      | succ i => simpa [ha, none] using fun t => ha (front _ (List.getElem_mem _) t)

theorem partitionPoint_eq_countP {p : α → Bool} {l : List α}
    (h : l.Pairwise fun a b => p b = true → p a = true) :
    partitionPoint p l.toArray = l.countP p :=
  partitionPoint_eq (by simpa using List.countP_le_length) fun i hi => by
    simpa using getElem_iff_lt_countP h i (by simpa using hi)

theorem partitionPoint_congr {p q : α → Bool} {l : List α} (h : ∀ a ∈ l, p a = q a) :
    partitionPoint p l.toArray = partitionPoint q l.toArray := by
  have test (i : Nat) : l.toArray[i]?.any p = l.toArray[i]?.any q := by
    rw [List.getElem?_toArray]
    cases found : l[i]? with
    | none => rfl
    | some a => exact h a (List.mem_of_getElem? found)
  unfold partitionPoint
  simp only [test]

namespace Paging

open DataGrid.Sort

/-- Only the key of an anchor counts, and how the entries compare to it. -/
theorem positionAfter_congr {o : EntryOrder} {l : List Entry} {a b : Anchor}
    (key : a.entry.key = b.entry.key)
    (alike : ∀ x ∈ l, o.compare x a.entry = o.compare x b.entry) :
    positionAfter o l.toArray a = positionAfter o l.toArray b := by
  have start : partitionPoint (fun e => o.compare e a.entry == .lt) l.toArray =
      partitionPoint (fun e => o.compare e b.entry == .lt) l.toArray :=
    partitionPoint_congr fun x hx => by rw [alike x hx]
  have stop : partitionPoint (fun e => o.compare e a.entry != .gt) l.toArray =
      partitionPoint (fun e => o.compare e b.entry != .gt) l.toArray :=
    partitionPoint_congr fun x hx => by rw [alike x hx]
  unfold positionAfter
  simp only [start, stop, key]

section Sorted

variable {o : EntryOrder} {l m : List Entry} {x : Entry}

/-- In a sorted result the entries before `x` come first. -/
theorem pairwise_before (ho : TotalPreorder o.compare m) (sub : l ⊆ m)
    (hl : l.Pairwise fun a b => o.compare a b ≠ .gt) (hx : x ∈ m) :
    l.Pairwise fun a b => (o.compare b x == .lt) = true → (o.compare a x == .lt) = true := by
  refine hl.imp_of_mem fun {a b} ha hb le t => ?_
  simpa using ho.lt_of_le_of_lt (sub ha) (sub hb) hx le (by simpa using t)

/-- So do the entries that are not after `x`. -/
theorem pairwise_notAfter (ho : TotalPreorder o.compare m) (sub : l ⊆ m)
    (hl : l.Pairwise fun a b => o.compare a b ≠ .gt) (hx : x ∈ m) :
    l.Pairwise fun a b => (o.compare b x != .gt) = true → (o.compare a x != .gt) = true := by
  refine hl.imp_of_mem fun {a b} ha hb le t => ?_
  simpa using ho.trans a (sub ha) b (sub hb) x hx le (by simpa using t)

/-- Reading resumes within or right behind the run of entries that compare equal to the anchor. -/
theorem positionAfter_bounds {a : Anchor} (ho : TotalPreorder o.compare m) (sub : l ⊆ m)
    (hl : l.Pairwise fun a b => o.compare a b ≠ .gt) (hx : a.entry ∈ m) :
    l.countP (o.compare · a.entry == .lt) ≤ positionAfter o l.toArray a ∧
      positionAfter o l.toArray a ≤ l.countP (o.compare · a.entry != .gt) := by
  have run : l.countP (o.compare · a.entry == .lt) ≤ l.countP (o.compare · a.entry != .gt) := by
    apply List.countP_mono_left
    intro e _ lt
    simp_all
  unfold positionAfter
  dsimp only
  rw [partitionPoint_eq_countP (pairwise_before ho sub hl hx),
    partitionPoint_eq_countP (pairwise_notAfter ho sub hl hx)]
  split
  · next i found =>
    have inside := (List.findIdx?_eq_some_iff_getElem.1 found).1
    simp only [List.length_take, List.length_drop] at inside
    omega
  · omega

/-- In a sorted result with distinct keys, reading resumes right behind the anchored entry. -/
theorem positionAfter_eq {a : Anchor} {q : Nat} (ho : TotalPreorder o.compare l)
    (hl : l.Pairwise fun a b => o.compare a b ≠ .gt) (hk : (l.map (·.key)).Nodup)
    (hq : q < l.length) (ha : l[q] = a.entry) : positionAfter o l.toArray a = q + 1 := by
  have hx : a.entry ∈ l := ha ▸ List.getElem_mem hq
  have before := pairwise_before ho (List.Subset.refl l) hl hx
  have notAfter := pairwise_notAfter ho (List.Subset.refl l) hl hx
  have hstart : l.countP (fun e => o.compare e a.entry == .lt) ≤ q := by
    simpa [ha, ho.refl hx] using getElem_iff_lt_countP before q hq
  have hstop : q < l.countP (fun e => o.compare e a.entry != .gt) := by
    simpa [ha, ho.refl hx] using getElem_iff_lt_countP notAfter q hq
  unfold positionAfter
  dsimp only
  rw [partitionPoint_eq_countP before, partitionPoint_eq_countP notAfter]
  generalize l.countP (fun e => o.compare e a.entry == .lt) = start at hstart
  generalize l.countP (fun e => o.compare e a.entry != .gt) = stop at hstop
  -- Of the entries that compare equal only the anchored one has its key.
  have found : ((l.drop start).take (stop - start)).findIdx? (·.key == a.entry.key) =
      some (q - start) := by
    rw [List.findIdx?_eq_some_iff_getElem]
    refine ⟨by simp; omega, ?_, fun j hj => ?_⟩
    · have : start + (q - start) = q := by omega
      simp [this, ha]
    · have hs : start + j < (l.map (·.key)).length := by simp; omega
      have hq : q < (l.map (·.key)).length := by simpa
      have ne : (l.map (·.key))[start + j] ≠ (l.map (·.key))[q] :=
        fun e => by have := (List.getElem_inj hk).1 e; omega
      simpa [ha] using ne
  rw [found]
  dsimp only
  omega

end Sorted

end Paging

end DataGrid
