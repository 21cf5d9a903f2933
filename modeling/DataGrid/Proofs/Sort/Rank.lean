import DataGrid.Sort.Stable

/-!
# Order by rank

A comparison orders the elements of a list if each element has a rank and to compare is to compare
ranks. A list is in stable order if its ranks rise and, rank by rank, its elements stand as they
did before. Main statements: a list has one stable order, and a comparison that is a total preorder
on a list ranks it.
-/

namespace DataGrid.Sort

variable {α : Type u} {rank : α → Nat} {less : α → α → Bool}

/-- The comparison puts the elements of a list in the order of their ranks. -/
def Ranks (less : α → α → Bool) (rank : α → Nat) (l : List α) : Prop :=
  ∀ a ∈ l, ∀ b ∈ l, less a b = decide (rank a < rank b)

/-- No element has a smaller rank than one before it. -/
def Rising (rank : α → Nat) (l : List α) : Prop := l.Pairwise (rank · ≤ rank ·)

/-- Rank by rank, two lists have the same elements in the same order. -/
def Alike (rank : α → Nat) (l m : List α) : Prop :=
  ∀ k, l.filter (rank · = k) = m.filter (rank · = k)

/-- The list `m` is the list `l` in stable order. -/
structure Sorts (rank : α → Nat) (l m : List α) : Prop where
  rising : Rising rank m
  alike : Alike rank m l

theorem Ranks.mono {l m : List α} (h : Ranks less rank l) (hm : m ⊆ l) : Ranks less rank m :=
  fun a ha b hb => h a (hm ha) b (hm hb)

/-! ## Alike lists -/

namespace Alike

variable {l m n : List α}

theorem refl (l : List α) : Alike rank l l := fun _ => rfl

theorem symm (h : Alike rank l m) : Alike rank m l := fun k => (h k).symm

theorem trans (h : Alike rank l m) (g : Alike rank m n) : Alike rank l n :=
  fun k => (h k).trans (g k)

theorem append {l' m' : List α} (h : Alike rank l m) (g : Alike rank l' m') :
    Alike rank (l ++ l') (m ++ m') := by
  intro k
  rw [List.filter_append, List.filter_append, h k, g k]

theorem cons (a : α) (h : Alike rank l m) : Alike rank (a :: l) (a :: m) :=
  append (refl [a]) h

theorem reverse (h : Alike rank l m) : Alike rank l.reverse m.reverse := by
  intro k
  rw [List.filter_reverse, List.filter_reverse, h k]

/-- Two neighbours of different rank may change places. -/
theorem swap {a b : α} (h : rank a ≠ rank b) (l : List α) :
    Alike rank (a :: b :: l) (b :: a :: l) := by
  intro k
  by_cases ha : rank a = k
  · have hb : rank b ≠ k := fun hb => h (ha.trans hb.symm)
    simp [ha, hb]
  · simp [List.filter_cons, ha]

/-- An element may move past elements of other ranks. -/
theorem middle {a : α} (h : ∀ b ∈ l, rank b ≠ rank a) : Alike rank (l ++ a :: m) (a :: (l ++ m)) := by
  induction l with
  | nil => exact refl _
  | cons b l ih =>
    have tail := ih fun c hc => h c (List.mem_cons_of_mem b hc)
    exact (tail.cons b).trans (swap (h b List.mem_cons_self) _)

/-- Lists without a common rank may change places. -/
theorem comm (h : ∀ a ∈ l, ∀ b ∈ m, rank a ≠ rank b) : Alike rank (l ++ m) (m ++ l) := by
  induction l with
  | nil => simpa using refl m
  | cons a l ih =>
    have tail := ih fun b hb => h b (List.mem_cons_of_mem a hb)
    have passed : Alike rank (m ++ a :: l) (a :: (m ++ l)) :=
      middle fun b hb => (h a List.mem_cons_self b hb).symm
    exact (tail.cons a).trans passed.symm

/-- The parts of a list that a test of ranks keeps and rejects, one after the other. -/
theorem filter_append {p : α → Bool} (h : ∀ a ∈ l, ∀ b ∈ l, rank a = rank b → p a = p b) :
    Alike rank (l.filter p ++ l.filter (!p ·)) l := by
  induction l with
  | nil => exact refl _
  | cons a l ih =>
    have tail := ih fun b hb c hc =>
      h b (List.mem_cons_of_mem a hb) c (List.mem_cons_of_mem a hc)
    cases hp : p a with
    | true => simpa [List.filter_cons, hp] using tail.cons a
    | false =>
      have passed (b : α) (hb : b ∈ l.filter p) : rank b ≠ rank a := by
        intro e
        obtain ⟨hb, pb⟩ := List.mem_filter.1 hb
        have := h b (List.mem_cons_of_mem a hb) a List.mem_cons_self e
        simp [pb, hp] at this
      simpa [List.filter_cons, hp] using (middle passed).trans (tail.cons a)

theorem mem_iff (h : Alike rank l m) {a : α} : a ∈ l ↔ a ∈ m := by
  have key (l : List α) : a ∈ l ↔ a ∈ l.filter (rank · = rank a) := by simp
  rw [key l, key m, h]

theorem subset (h : Alike rank l m) : l ⊆ m := fun _ ha => h.mem_iff.1 ha

/-- What is left of alike lists that begin with the same element. -/
theorem of_cons {a : α} (h : Alike rank (a :: l) (a :: m)) : Alike rank l m := by
  intro k
  have := h k
  simp only [List.filter_cons] at this
  split at this
  · exact (List.cons.inj this).2
  · exact this

end Alike

/-! ## The stable order -/

theorem Rising.of_cons {a : α} {l : List α} (h : Rising rank (a :: l)) : Rising rank l :=
  (List.pairwise_cons.1 h).2

theorem Rising.head_le {a b : α} {l : List α} (h : Rising rank (a :: l)) (hb : b ∈ a :: l) :
    rank a ≤ rank b := by
  rcases List.mem_cons.1 hb with rfl | hb
  · exact Nat.le_refl _
  · exact (List.pairwise_cons.1 h).1 b hb

/-- Alike lists whose ranks rise are equal. -/
theorem Rising.eq_of_alike {l m : List α} (hl : Rising rank l) (hm : Rising rank m)
    (h : Alike rank l m) : l = m := by
  induction l generalizing m with
  | nil =>
    cases m with
    | nil => rfl
    | cons b m => exact absurd (h.mem_iff.2 List.mem_cons_self) List.not_mem_nil
  | cons a l ih =>
    cases m with
    | nil => exact absurd (h.mem_iff.1 List.mem_cons_self) List.not_mem_nil
    | cons b m =>
      have le : rank a ≤ rank b := hl.head_le (h.mem_iff.2 List.mem_cons_self)
      have ge : rank b ≤ rank a := hm.head_le (h.mem_iff.1 List.mem_cons_self)
      have first := h (rank a)
      rw [List.filter_cons_of_pos (by simp), List.filter_cons_of_pos (by simp; omega)] at first
      obtain ⟨rfl, -⟩ := List.cons.inj first
      rw [ih hl.of_cons hm.of_cons h.of_cons]

namespace Sorts

variable {l l' m m' : List α}

theorem eq (h : Sorts rank l m) (g : Sorts rank l m') : m = m' :=
  h.rising.eq_of_alike g.rising (h.alike.trans g.alike.symm)

theorem of_rising (h : Rising rank l) : Sorts rank l l := ⟨h, .refl l⟩

theorem trans_alike (h : Sorts rank l m) (g : Alike rank l l') : Sorts rank l' m :=
  ⟨h.rising, h.alike.trans g⟩

theorem mem_iff (h : Sorts rank l m) {a : α} : a ∈ m ↔ a ∈ l := h.alike.mem_iff

/-- Two lists in stable order, of which no element of the second comes before one of the first. -/
theorem append (h : Sorts rank l m) (g : Sorts rank l' m')
    (le : ∀ a ∈ l, ∀ b ∈ l', rank a ≤ rank b) : Sorts rank (l ++ l') (m ++ m') := by
  refine ⟨List.pairwise_append.2 ⟨h.rising, g.rising, ?_⟩, h.alike.append g.alike⟩
  exact fun a ha b hb => le a (h.mem_iff.1 ha) b (g.mem_iff.1 hb)

end Sorts

/-- Merging in the library's sense brings a list into stable order. -/
theorem sorts_mergeSort (rank : α → Nat) (l : List α) :
    Sorts rank l (l.mergeSort (rank · ≤ rank ·)) := by
  have trans (a b c : α) (h : decide (rank a ≤ rank b) = true)
      (g : decide (rank b ≤ rank c) = true) : decide (rank a ≤ rank c) = true := by
    simp only [decide_eq_true_eq] at *
    omega
  have total (a b : α) : (decide (rank a ≤ rank b) || decide (rank b ≤ rank a)) = true := by
    simp only [Bool.or_eq_true, decide_eq_true_eq]
    omega
  refine ⟨?_, fun k => ?_⟩
  · exact (List.pairwise_mergeSort trans total l).imp (by simp)
  · have class_le : (l.filter (rank · = k)).Pairwise fun a b => decide (rank a ≤ rank b) = true := by
      rw [List.pairwise_filter]
      exact List.pairwise_of_forall fun a b ha hb => by grind
    have sub := (List.sublist_mergeSort trans total class_le (List.filter_sublist)).filter
      (rank · = k)
    rw [List.filter_filter] at sub
    simp only [Bool.and_self] at sub
    exact (sub.eq_of_length ((List.mergeSort_perm l _).filter _).length_eq.symm).symm

/-! ## Comparisons that rank a list -/

/-- A comparison is a total preorder on the elements of a list. -/
structure TotalPreorder (cmp : α → α → Ordering) (l : List α) : Prop where
  swap : ∀ a ∈ l, ∀ b ∈ l, cmp b a = (cmp a b).swap
  trans : ∀ a ∈ l, ∀ b ∈ l, ∀ c ∈ l, cmp a b ≠ .gt → cmp b c ≠ .gt → cmp a c ≠ .gt

namespace TotalPreorder

variable {cmp : α → α → Ordering} {l : List α}

theorem mono {m : List α} (h : TotalPreorder cmp l) (hm : m ⊆ l) : TotalPreorder cmp m :=
  ⟨fun a ha b hb => h.swap a (hm ha) b (hm hb),
    fun a ha b hb c hc => h.trans a (hm ha) b (hm hb) c (hm hc)⟩

theorem refl (h : TotalPreorder cmp l) {a : α} (ha : a ∈ l) : cmp a a = .eq := by
  have := h.swap a ha a ha
  cases e : cmp a a <;> simp_all

theorem lt_of_lt_of_le (h : TotalPreorder cmp l) {a b c : α} (ha : a ∈ l) (hb : b ∈ l)
    (hc : c ∈ l) (hab : cmp a b = .lt) (hbc : cmp b c ≠ .gt) : cmp a c = .lt := by
  have le : cmp a c ≠ .gt := h.trans a ha b hb c hc (by simp [hab]) hbc
  have ne : cmp a c ≠ .eq := by
    intro e
    have back := h.trans b hb c hc a ha hbc (by simp [h.swap a ha c hc, e])
    simp [h.swap a ha b hb, hab] at back
  cases e : cmp a c <;> grind

theorem lt_of_le_of_lt (h : TotalPreorder cmp l) {a b c : α} (ha : a ∈ l) (hb : b ∈ l)
    (hc : c ∈ l) (hab : cmp a b ≠ .gt) (hbc : cmp b c = .lt) : cmp a c = .lt := by
  have le : cmp a c ≠ .gt := h.trans a ha b hb c hc hab (by simp [hbc])
  have ne : cmp a c ≠ .eq := by
    intro e
    have back := h.trans c hc a ha b hb (by simp [h.swap a ha c hc, e]) hab
    simp [h.swap b hb c hc, hbc] at back
  cases e : cmp a c <;> grind

end TotalPreorder

/-- How many elements of a list come before one. -/
def countBefore (cmp : α → α → Ordering) (l : List α) (a : α) : Nat :=
  l.countP (cmp · a == .lt)

theorem countP_lt_countP {p q : α → Bool} {l : List α} {a : α} (h : ∀ b ∈ l, p b → q b)
    (ha : a ∈ l) (pa : p a = false) (qa : q a = true) : l.countP p < l.countP q := by
  obtain ⟨s, t, rfl⟩ := List.append_of_mem ha
  have hs := List.countP_mono_left (l := s) fun b hb => h b (by simp [hb])
  have ht := List.countP_mono_left (l := t) fun b hb => h b (by simp [hb])
  rw [List.countP_append, List.countP_append, List.countP_cons_of_neg (by simp [pa]),
    List.countP_cons_of_pos qa]
  omega

/-- A total preorder on a list ranks its elements. -/
theorem TotalPreorder.ranks {cmp : α → α → Ordering} {l : List α} (h : TotalPreorder cmp l) :
    Ranks (fun a b => cmp a b == .lt) (countBefore cmp l) l := by
  intro a ha b hb
  by_cases lt : cmp a b = .lt
  · have fewer : countBefore cmp l a < countBefore cmp l b := by
      refine countP_lt_countP (a := a) ?_ ha (by simp [h.refl ha]) (by simp [lt])
      intro c hc before
      simpa using h.lt_of_lt_of_le hc ha hb (by simpa using before) (by simp [lt])
    simp [lt, fewer]
  · have ge : cmp b a ≠ .gt := by
      rw [h.swap a ha b hb]
      cases e : cmp a b <;> simp_all
    have le : countBefore cmp l b ≤ countBefore cmp l a := by
      refine List.countP_mono_left fun c hc before => ?_
      simpa using h.lt_of_lt_of_le hc hb ha (by simpa using before) ge
    have : ¬ countBefore cmp l a < countBefore cmp l b := by omega
    simp [lt, this]

theorem TotalPreorder.le_iff {cmp : α → α → Ordering} {l : List α} (h : TotalPreorder cmp l)
    {a b : α} (ha : a ∈ l) (hb : b ∈ l) :
    cmp a b ≠ .gt ↔ countBefore cmp l a ≤ countBefore cmp l b := by
  have back : (cmp b a == .lt) = decide (countBefore cmp l b < countBefore cmp l a) :=
    h.ranks b hb a ha
  rw [h.swap a ha b hb] at back
  rw [← Nat.not_lt, ← decide_eq_true_iff (p := _ < _), ← back]
  cases cmp a b <;> simp

end DataGrid.Sort
