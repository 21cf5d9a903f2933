import DataGrid.Proofs.Sort.Rank

/-!
# Insertion and merging keep the stable order

Insertion puts an element behind those of its rank, and a merge from either side lets those of the
left list come first. The sides of a merge never come for one element, since that would leave
another one that should have come before it. So insertion and merging bring a list into stable
order whose parts are, and so do the sorts of short lists that are made of them.
-/

namespace DataGrid.Sort

variable {α : Type u} {rank : α → Nat} {less : α → α → Bool}

/-- No element has a greater rank than one before it. -/
def Falling (rank : α → Nat) (l : List α) : Prop := l.Pairwise fun a b => rank b ≤ rank a

theorem rising_reverse {l : List α} : Rising rank l.reverse ↔ Falling rank l :=
  List.pairwise_reverse

theorem falling_reverse {l : List α} : Falling rank l.reverse ↔ Rising rank l :=
  List.pairwise_reverse

theorem Falling.of_cons {a : α} {l : List α} (h : Falling rank (a :: l)) : Falling rank l :=
  (List.pairwise_cons.1 h).2

theorem Falling.le_head {a b : α} {l : List α} (h : Falling rank (a :: l)) (hb : b ∈ a :: l) :
    rank b ≤ rank a := by
  rcases List.mem_cons.1 hb with rfl | hb
  · exact Nat.le_refl _
  · exact (List.pairwise_cons.1 h).1 b hb

theorem Ranks.lt {a b : α} {l : List α} (h : Ranks less rank l) (ha : a ∈ l) (hb : b ∈ l)
    (lt : less a b = true) : rank a < rank b := by
  simpa [h a ha b hb] using lt

theorem Ranks.le {a b : α} {l : List α} (h : Ranks less rank l) (ha : a ∈ l) (hb : b ∈ l)
    (ge : ¬ less b a = true) : rank a ≤ rank b := by
  simpa [h b hb a ha] using ge

/-! ## Insertion -/

theorem alike_insertReversed {x : α} {l : List α} (h : Ranks less rank (x :: l)) :
    Alike rank (insertReversed less x l) (x :: l) := by
  induction l with
  | nil => exact .refl _
  | cons y r ih =>
    unfold insertReversed
    split
    · next lt =>
      have ne : rank y ≠ rank x := by
        have := h.lt (by simp) (by simp) lt
        omega
      exact ((ih (h.mono (by simp))).cons y).trans (.swap ne r)
    · exact .refl _

theorem falling_insertReversed {x : α} {l : List α} (h : Ranks less rank (x :: l))
    (hl : Falling rank l) : Falling rank (insertReversed less x l) := by
  induction l with
  | nil => simp [insertReversed, Falling]
  | cons y r ih =>
    have hr : Ranks less rank (x :: r) := h.mono (by simp)
    unfold insertReversed
    split
    · next lt =>
      refine List.pairwise_cons.2 ⟨fun b hb => ?_, ih hr hl.of_cons⟩
      rcases List.mem_cons.1 ((alike_insertReversed hr).mem_iff.1 hb) with rfl | hb
      · exact Nat.le_of_lt (h.lt (by simp) (by simp) lt)
      · exact hl.le_head (List.mem_cons_of_mem y hb)
    · next ge =>
      refine List.pairwise_cons.2 ⟨fun b hb => ?_, hl⟩
      have := h.le (a := y) (b := x) (by simp) (by simp) ge
      have := hl.le_head hb
      omega

theorem insertAll_spec {s l : List α} (h : Ranks less rank (s ++ l)) (hs : Falling rank s) :
    Falling rank (insertAll less s l) ∧ Alike rank (insertAll less s l) (l.reverse ++ s) := by
  induction l generalizing s with
  | nil => exact ⟨hs, .refl s⟩
  | cons x r ih =>
    have hx : Ranks less rank (x :: s) := h.mono (by simp)
    have alike := alike_insertReversed hx
    have step : Ranks less rank (insertReversed less x s ++ r) := by
      refine h.mono (List.append_subset.2 ⟨fun a ha => ?_, by simp⟩)
      rcases List.mem_cons.1 (alike.mem_iff.1 ha) with rfl | ha <;> grind
    obtain ⟨falls, same⟩ := ih step (falling_insertReversed hx hs)
    exact ⟨falls, by simpa [insertAll] using same.trans ((Alike.refl r.reverse).append alike)⟩

theorem sorts_extend {s r : List α} (h : Ranks less rank (s ++ r)) (hs : Rising rank s) :
    Sorts rank (s ++ r) (extend less s r) := by
  obtain ⟨falls, alike⟩ := insertAll_spec (s := s.reverse) (l := r)
    (h.mono (by simp)) (falling_reverse.2 hs)
  exact ⟨rising_reverse.2 falls, by simpa [extend] using alike.reverse⟩

/-! ## Merging -/

theorem subset_of_append {l a m : List α} (h : l = a ++ m) : a ⊆ l ∧ m ⊆ l := by
  rw [h]
  exact ⟨List.subset_append_left a m, List.subset_append_right a m⟩

theorem Partway.length_take (fromLeft : α → α → Bool) (n : Nat) (p : Partway α) :
    let q := p.take fromLeft n
    q.taken.length ≤ p.taken.length + n ∧
      q.taken.length + q.left.length + q.right.length =
        p.taken.length + p.left.length + p.right.length ∧
      (q.left = [] ∨ q.right = [] ∨ p.taken.length + n ≤ q.taken.length) := by
  fun_induction Partway.take fromLeft n p with
  | case1 n t x l y r _ ih =>
    dsimp only [List.length_cons] at ih ⊢
    obtain ⟨most, total, short⟩ := ih
    exact ⟨by omega, by omega, short.imp_right (·.imp_right fun _ => by omega)⟩
  | case2 n t x l y r _ ih =>
    dsimp only [List.length_cons] at ih ⊢
    obtain ⟨most, total, short⟩ := ih
    exact ⟨by omega, by omega, short.imp_right (·.imp_right fun _ => by omega)⟩
  | case3 n p short =>
    refine ⟨Nat.le_add_right _ _, rfl, ?_⟩
    obtain ⟨t, l, r⟩ := p
    cases n with
    | zero => exact .inr (.inr (Nat.le_refl _))
    | succ n =>
      cases l with
      | nil => exact .inl rfl
      | cons x l =>
        cases r with
        | nil => exact .inr (.inl rfl)
        | cons y r => exact (short n t x l y r rfl rfl).elim

/-- What is taken from the front comes in stable order. It is no greater than the rest, and what of
it is from the right list is less than the rest of the left list. -/
theorem take_front {n : Nat} {p : Partway α} (h : Ranks less rank (p.left ++ p.right))
    (hl : Rising rank p.left) (hr : Rising rank p.right) :
    let q := p.take (fun x y => !less y x) n
    ∃ a b m, p.left = a ++ q.left ∧ p.right = b ++ q.right ∧
      q.taken.reverse = p.taken.reverse ++ m ∧ Sorts rank (a ++ b) m ∧
      (∀ x ∈ a, ∀ y ∈ q.right, rank x ≤ rank y) ∧ ∀ y ∈ b, ∀ x ∈ q.left, rank y < rank x := by
  fun_induction Partway.take (fun x y => !less y x) n p with
  | case1 n t x l y r ge ih =>
    have xy : rank x ≤ rank y := h.le (by simp) (by simp) (by simpa using ge)
    obtain ⟨a, b, m, left, right, taken, sorts, ab, ba⟩ := ih (h.mono (by simp)) hl.of_cons hr
    dsimp only at left right taken
    obtain ⟨al, -⟩ := subset_of_append left
    obtain ⟨br, rest⟩ := subset_of_append right
    have above : ∀ z ∈ y :: r, rank x ≤ rank z := fun z hz => Nat.le_trans xy (hr.head_le hz)
    refine ⟨x :: a, b, x :: m, congrArg (x :: ·) left, right, by simpa using taken, ?_, ?_, ba⟩
    · refine (Sorts.of_rising (List.pairwise_singleton _ x)).append sorts fun z hz w hw => ?_
      rw [List.mem_singleton.1 hz]
      rcases List.mem_append.1 hw with hw | hw
      · exact hl.head_le (List.mem_cons_of_mem x (al hw))
      · exact above w (br hw)
    · intro z hz w hw
      rcases List.mem_cons.1 hz with rfl | hz
      · exact above w (rest hw)
      · exact ab z hz w hw
  | case2 n t x l y r lt ih =>
    have yx : rank y < rank x := h.lt (by simp) (by simp) (by simpa using lt)
    obtain ⟨a, b, m, left, right, taken, sorts, ab, ba⟩ :=
      ih (h.mono ((List.sublist_cons_self y r).append_left (x :: l)).subset) hl hr.of_cons
    dsimp only at left right taken
    obtain ⟨al, rest⟩ := subset_of_append left
    obtain ⟨br, -⟩ := subset_of_append right
    have above : ∀ z ∈ x :: l, rank y < rank z := fun z hz => Nat.lt_of_lt_of_le yx (hl.head_le hz)
    refine ⟨a, y :: b, y :: m, left, congrArg (y :: ·) right, by simpa using taken, ?_, ab, ?_⟩
    · have passed : Alike rank (a ++ y :: b) (y :: (a ++ b)) :=
        .middle fun z hz => Nat.ne_of_gt (above z (al hz))
      refine Sorts.trans_alike ?_ passed.symm
      refine (Sorts.of_rising (List.pairwise_singleton _ y)).append sorts fun z hz w hw => ?_
      rw [List.mem_singleton.1 hz]
      rcases List.mem_append.1 hw with hw | hw
      · exact Nat.le_of_lt (above w (al hw))
      · exact hr.head_le (List.mem_cons_of_mem y (br hw))
    · intro z hz w hw
      rcases List.mem_cons.1 hz with rfl | hz
      · exact above w (rest hw)
      · exact ba z hz w hw
  | case3 n p => exact ⟨[], [], [], rfl, rfl, by simp, .of_rising .nil, by simp, by simp⟩

/-- What is taken from the back, where the lists are in reverse, comes in stable order. It is no less
than the rest, and what of it is from the left list is greater than the rest of the right list. -/
theorem take_back {n : Nat} {p : Partway α} (h : Ranks less rank (p.left ++ p.right))
    (hl : Falling rank p.left) (hr : Falling rank p.right) :
    let q := p.take (fun x y => less y x) n
    ∃ a b m, p.left = a ++ q.left ∧ p.right = b ++ q.right ∧ q.taken = m ++ p.taken ∧
      Sorts rank (a.reverse ++ b.reverse) m ∧
      (∀ x ∈ a, ∀ y ∈ q.right, rank y < rank x) ∧ ∀ y ∈ b, ∀ x ∈ q.left, rank x ≤ rank y := by
  fun_induction Partway.take (fun x y => less y x) n p with
  | case1 n t x l y r lt ih =>
    have yx : rank y < rank x := h.lt (by simp) (by simp) lt
    obtain ⟨a, b, m, left, right, taken, sorts, ab, ba⟩ := ih (h.mono (by simp)) hl.of_cons hr
    dsimp only at left right taken
    obtain ⟨al, -⟩ := subset_of_append left
    obtain ⟨br, rest⟩ := subset_of_append right
    have below : ∀ z ∈ y :: r, rank z < rank x := fun z hz => Nat.lt_of_le_of_lt (hr.le_head hz) yx
    refine ⟨x :: a, b, m ++ [x], congrArg (x :: ·) left, right, by simpa using taken, ?_, ?_, ba⟩
    · have passed : Alike rank (b.reverse ++ [x]) (x :: (b.reverse ++ [])) :=
        .middle fun z hz => Nat.ne_of_lt (below z (br (List.mem_reverse.1 hz)))
      have alike := Alike.append (.refl a.reverse) passed
      refine Sorts.trans_alike (l := a.reverse ++ b.reverse ++ [x]) ?_ (by simpa using alike)
      refine sorts.append (.of_rising (List.pairwise_singleton _ x)) fun z hz w hw => ?_
      rw [List.mem_singleton.1 hw]
      rcases List.mem_append.1 hz with hz | hz
      · exact hl.le_head (List.mem_cons_of_mem x (al (List.mem_reverse.1 hz)))
      · exact Nat.le_of_lt (below z (br (List.mem_reverse.1 hz)))
    · intro z hz w hw
      rcases List.mem_cons.1 hz with rfl | hz
      · exact below w (rest hw)
      · exact ab z hz w hw
  | case2 n t x l y r ge ih =>
    have xy : rank x ≤ rank y := h.le (by simp) (by simp) ge
    obtain ⟨a, b, m, left, right, taken, sorts, ab, ba⟩ :=
      ih (h.mono ((List.sublist_cons_self y r).append_left (x :: l)).subset) hl hr.of_cons
    dsimp only at left right taken
    obtain ⟨al, rest⟩ := subset_of_append left
    obtain ⟨br, -⟩ := subset_of_append right
    have below : ∀ z ∈ x :: l, rank z ≤ rank y := fun z hz => Nat.le_trans (hl.le_head hz) xy
    refine ⟨a, y :: b, m ++ [y], left, congrArg (y :: ·) right, by simpa using taken, ?_, ab, ?_⟩
    · rw [List.reverse_cons, ← List.append_assoc]
      refine sorts.append (.of_rising (List.pairwise_singleton _ y)) fun z hz w hw => ?_
      rw [List.mem_singleton.1 hw]
      rcases List.mem_append.1 hz with hz | hz
      · exact below z (al (List.mem_reverse.1 hz))
      · exact hr.le_head (List.mem_cons_of_mem y (br (List.mem_reverse.1 hz)))
    · intro z hz w hw
      rcases List.mem_cons.1 hz with rfl | hz
      · exact below w (rest hw)
      · exact ba z hz w hw
  | case3 n p => exact ⟨[], [], [], rfl, rfl, rfl, .of_rising .nil, by simp, by simp⟩

/-- Where a list is cut in two ways, the longer first part and the longer second part overlap. -/
theorem exists_mem_overlap {a m s t : List α} (h : s ++ t = a ++ m) (lt : s.length < a.length) :
    ∃ x, x ∈ a ∧ x ∈ t := by
  rcases List.append_eq_append_iff.1 h with ⟨c, rfl, rfl⟩ | ⟨c, rfl, rfl⟩
  · cases c with
    | nil => simp at lt
    | cons x c => exact ⟨x, by simp, by simp⟩
  · rw [List.length_append] at lt
    omega

/-- The parts `a` and `b` of two lists come first and the parts `c` and `d` last, each pair in stable
order. Of what is between, `x` and `y`, at least one is empty. -/
theorem sorts_parts {a x c b y d A C : List α} (hl : Rising rank (a ++ (x ++ c)))
    (hr : Rising rank (b ++ (y ++ d))) (first : Sorts rank (a ++ b) A)
    (last : Sorts rank (c ++ d) C) (one : x = [] ∨ y = [])
    (ab : ∀ u ∈ a, ∀ v ∈ y ++ d, rank u ≤ rank v) (ba : ∀ v ∈ b, ∀ u ∈ x ++ c, rank v < rank u)
    (cd : ∀ u ∈ c, ∀ v ∈ y, rank v < rank u) (dc : ∀ v ∈ d, ∀ u ∈ x, rank u ≤ rank v) :
    Sorts rank (a ++ (x ++ c) ++ (b ++ (y ++ d))) (A ++ (x ++ (y ++ C))) := by
  obtain ⟨-, hxc, axc⟩ := List.pairwise_append.1 hl
  obtain ⟨-, hyd, byd⟩ := List.pairwise_append.1 hr
  obtain ⟨hx, -, xc⟩ := List.pairwise_append.1 hxc
  obtain ⟨hy, -, yd⟩ := List.pairwise_append.1 hyd
  have fromY : Sorts rank (y ++ (c ++ d)) (y ++ C) := by
    refine (Sorts.of_rising hy).append last fun v hv u hu => ?_
    rcases List.mem_append.1 hu with hu | hu
    · exact Nat.le_of_lt (cd u hu v hv)
    · exact yd v hv u hu
  have fromX : Sorts rank (x ++ (y ++ (c ++ d))) (x ++ (y ++ C)) := by
    refine (Sorts.of_rising hx).append fromY fun u hu v hv => ?_
    simp only [List.mem_append] at hv
    rcases hv with hv | hv | hv
    · rcases one with rfl | rfl <;> contradiction
    · exact xc u hu v hv
    · exact dc v hv u hu
  have whole : Sorts rank (a ++ b ++ (x ++ (y ++ (c ++ d)))) (A ++ (x ++ (y ++ C))) := by
    refine first.append fromX fun u hu v hv => ?_
    simp only [List.mem_append] at hu hv
    rcases hu with hu | hu
    · rcases hv with hv | hv | hv | hv
      · exact axc u hu v (by simp [hv])
      · exact ab u hu v (by simp [hv])
      · exact axc u hu v (by simp [hv])
      · exact ab u hu v (by simp [hv])
    · rcases hv with hv | hv | hv | hv
      · exact Nat.le_of_lt (ba u hu v (by simp [hv]))
      · exact byd u hu v (by simp [hv])
      · exact Nat.le_of_lt (ba u hu v (by simp [hv]))
      · exact byd u hu v (by simp [hv])
  -- The part `c` moves in front of `y`, and then in front of `b` together with `x`.
  have passed : Alike rank (y ++ c) (c ++ y) :=
    .comm fun v hv u hu => Nat.ne_of_lt (cd u hu v hv)
  have passed' : Alike rank (b ++ (x ++ c)) ((x ++ c) ++ b) :=
    .comm fun v hv u hu => Nat.ne_of_lt (ba v hv u hu)
  have inner : Alike rank (x ++ (y ++ (c ++ d))) (x ++ c ++ (y ++ d)) := by
    simpa using Alike.append (.refl x) (passed.append (.refl d))
  have outer : Alike rank (b ++ (x ++ c ++ (y ++ d))) (x ++ c ++ (b ++ (y ++ d))) := by
    simpa using passed'.append (.refl (y ++ d))
  refine whole.trans_alike ?_
  have moved := (Alike.append (.refl (a ++ b)) inner).trans
    (by simpa using Alike.append (.refl a) outer)
  simpa using moved

/-- Two sides of a merge that together take all elements but at most one do not come for the same
element, and put the lists in stable order. -/
theorem sorts_mergeSides {n k : Nat} {l r : List α} (h : Ranks less rank (l ++ r))
    (hl : Rising rank l) (hr : Rising rank r) (le : n + k ≤ l.length + r.length)
    (all : l.length + r.length ≤ n + k + 1) :
    Apart less n k l r ∧ Sorts rank (l ++ r) (mergeSides less n k l r) := by
  have sizes := Partway.length_take (fun x y => !less y x) n ⟨[], l, r⟩
  have sizes' := Partway.length_take (fun x y => less y x) k ⟨[], l.reverse, r.reverse⟩
  have front := take_front (n := n) (p := ⟨[], l, r⟩) h hl hr
  have back := take_back (n := k) (p := ⟨[], l.reverse, r.reverse⟩) (h.mono (by simp))
    (falling_reverse.2 hl) (falling_reverse.2 hr)
  unfold Apart mergeSides takeFront takeBack
  generalize Partway.take (fun x y => !less y x) n ⟨[], l, r⟩ = f at *
  generalize Partway.take (fun x y => less y x) k ⟨[], l.reverse, r.reverse⟩ = g at *
  obtain ⟨a, b, A, left, right, taken, sorts, ab, ba⟩ := front
  obtain ⟨c, d, C, left', right', taken', sorts', cd, dc⟩ := back
  obtain ⟨most, total, short⟩ := sizes
  obtain ⟨most', total', short'⟩ := sizes'
  dsimp only [List.length_nil] at *
  have ends : g.left.reverse ++ c.reverse = l := by simpa using (congrArg List.reverse left').symm
  have ends' : g.right.reverse ++ d.reverse = r := by simpa using (congrArg List.reverse right').symm
  have lengths := congrArg List.length left
  have lengths' := congrArg List.length right
  simp only [List.length_append, List.length_reverse] at lengths lengths' total'
  -- An element that both sides take leaves one in the other list that neither side takes.
  have apart : l.length ≤ f.left.length + g.left.length := by
    refine Nat.le_of_not_lt fun crossed => ?_
    obtain ⟨x, xa, xc⟩ := exists_mem_overlap (ends.trans left) (by simp; omega)
    obtain ⟨y, yg, yf⟩ := exists_mem_overlap (right.symm.trans ends'.symm) (by simp; omega)
    have := ab x xa y yf
    have := cd x (by simpa using xc) y (by simpa using yg)
    omega
  have apart' : r.length ≤ f.right.length + g.right.length := by
    refine Nat.le_of_not_lt fun crossed => ?_
    obtain ⟨y, yb, yd⟩ := exists_mem_overlap (ends'.trans right) (by simp; omega)
    obtain ⟨x, xg, xf⟩ := exists_mem_overlap (left.symm.trans ends.symm) (by simp; omega)
    have := ba y yb x xf
    have := dc y (by simpa using yd) x (by simpa using xg)
    omega
  refine ⟨⟨apart, apart'⟩, ?_⟩
  have hl' := append_between left left' apart
  have hr' := append_between right right' apart'
  have one : between l.length f.left g.left = [] ∨ between r.length f.right g.right = [] := by
    simp only [between, List.take_eq_nil_iff]
    rcases short with e | e | full
    · exact .inl (.inr e)
    · exact .inr (.inr e)
    · rcases short' with e | e | full'
      · exact .inl (.inl (by rw [e, List.length_nil]; omega))
      · exact .inr (.inl (by rw [e, List.length_nil]; omega))
      · omega
  generalize between l.length f.left g.left = x at *
  generalize between r.length f.right g.right = y at *
  have middle : f.left = x ++ c.reverse := List.append_cancel_left (left.symm.trans hl')
  have middle' : f.right = y ++ d.reverse := List.append_cancel_left (right.symm.trans hr')
  have before : g.left.reverse = a ++ x :=
    List.append_cancel_right (ends.trans (by simpa using hl'))
  have before' : g.right.reverse = b ++ y :=
    List.append_cancel_right (ends'.trans (by simpa using hr'))
  rw [List.reverse_nil, List.nil_append] at taken
  rw [List.append_nil] at taken'
  rw [taken, taken', hl', hr']
  refine sorts_parts (hl' ▸ hl) (hr' ▸ hr) sorts sorts' one (middle' ▸ ab) (middle ▸ ba) ?_ ?_
  · intro u hu v hv
    refine cd u (List.mem_reverse.1 hu) v (List.mem_reverse.1 ?_)
    exact before' ▸ List.mem_append_right b hv
  · intro v hv u hu
    refine dc v (List.mem_reverse.1 hv) u (List.mem_reverse.1 ?_)
    exact before ▸ List.mem_append_right a hu

theorem sorts_merge {l r : List α} (h : Ranks less rank (l ++ r)) (hl : Rising rank l)
    (hr : Rising rank r) : Sorts rank (l ++ r) (merge less l r) := by
  unfold merge
  dsimp only
  split <;> exact (sorts_mergeSides h hl hr (by omega) (by omega)).2

theorem sorts_mergeFromBoth? {l r : List α} (h : Ranks less rank (l ++ r)) (hl : Rising rank l)
    (hr : Rising rank r) : ∃ m, mergeFromBoth? less l r = some m ∧ Sorts rank (l ++ r) m := by
  obtain ⟨apart, sorts⟩ := sorts_mergeSides (n := (l.length + r.length) / 2)
    (k := (l.length + r.length) / 2) h hl hr (by omega) (by omega)
  exact ⟨_, if_pos apart, sorts⟩

/-! ## Short lists -/

theorem sorts_ordered {a b : α} (h : Ranks less rank [a, b]) :
    Sorts rank [a, b] [(ordered less a b).1, (ordered less a b).2] := by
  unfold ordered
  split
  · next lt =>
    have ba := h.lt (by simp) (by simp) lt
    exact ⟨by simp [Rising, Nat.le_of_lt ba], .swap (Nat.ne_of_lt ba) []⟩
  · next ge =>
    have ab := h.le (a := a) (b := b) (by simp) (by simp) ge
    exact .of_rising (by simp [Rising, ab])

/-- The first and the last of four elements are found; the two between them are put in order. -/
theorem sorts_between {l : List α} {x y a b : α} (h : Ranks less rank l)
    (same : Alike rank [x, a, b, y] l) (first : ∀ c ∈ l, rank x ≤ rank c)
    (last : ∀ c ∈ l, rank c ≤ rank y) :
    Sorts rank l [x, (ordered less a b).1, (ordered less a b).2, y] := by
  have pair : Sorts rank [a, b] [(ordered less a b).1, (ordered less a b).2] :=
    sorts_ordered (h.mono fun c hc => same.subset (by grind))
  have front : Sorts rank [x, a, b] [x, (ordered less a b).1, (ordered less a b).2] :=
    (Sorts.of_rising (List.pairwise_singleton _ x)).append pair fun c hc d hd => by
      rw [List.mem_singleton.1 hc]
      exact first d (same.subset (by grind))
  refine (front.append (Sorts.of_rising (List.pairwise_singleton _ y)) ?_).trans_alike same
  intro c hc d hd
  rw [List.mem_singleton.1 hd]
  exact last c (same.subset (by grind))

theorem sorts_sortFour {a b c d : α} (h : Ranks less rank [a, b, c, d]) :
    Sorts rank [a, b, c, d] (sortFour less a b c d) := by
  have left : Sorts rank [a, b] _ := sorts_ordered (h.mono (by simp))
  have right : Sorts rank [c, d] _ := sorts_ordered (h.mono (by simp))
  have pairs := left.alike.append right.alike
  unfold sortFour
  generalize ordered less a b = p, ordered less c d = q at left right pairs
  obtain ⟨a', b'⟩ := p
  obtain ⟨c', d'⟩ := q
  replace h := h.mono pairs.subset
  have ab : rank a' ≤ rank b' := left.rising.head_le (by simp)
  have cd : rank c' ≤ rank d' := right.rising.head_le (by simp)
  refine Sorts.trans_alike ?_ pairs
  dsimp only [List.cons_append, List.nil_append] at h ⊢
  split
  · next ca db =>
    have := h.le (a := a') (b := c') (by simp) (by simp) (by simp [ca])
    have := h.le (a := b') (b := d') (by simp) (by simp) (by simp [db])
    exact sorts_between h (.refl _) (by simp; omega) (by simp; omega)
  · next ca db =>
    have := h.le (a := a') (b := c') (by simp) (by simp) (by simp [ca])
    have := h.lt (by simp) (by simp) db
    have passed : Alike rank ([c', d'] ++ [b']) (b' :: [c', d']) := .middle (by simp; omega)
    exact sorts_between h (passed.cons a') (by simp; omega) (by simp; omega)
  · next ca db =>
    have := h.lt (by simp) (by simp) ca
    have := h.le (a := b') (b := d') (by simp) (by simp) (by simp [db])
    have passed : Alike rank ([a', b'] ++ [c', d']) (c' :: ([a', b'] ++ [d'])) :=
      .middle (by simp; omega)
    exact sorts_between h passed.symm (by simp; omega) (by simp; omega)
  · next ca db =>
    have := h.lt (by simp) (by simp) ca
    have := h.lt (by simp) (by simp) db
    have inner : Alike rank [a', c', d', b'] [a', b', c', d'] :=
      (Alike.middle (l := [c', d']) (m := []) (a := b') (by simp; omega)).cons a'
    have outer : Alike rank [c', a', d', b'] [a', c', d', b'] := .swap (by omega) _
    exact sorts_between h (outer.trans inner) (by simp; omega) (by simp; omega)

theorem sorts_sortHalf {l : List α} (h : Ranks less rank l) :
    Sorts rank l (sortHalf less l) := by
  unfold sortHalf
  split
  · next a b c d r =>
    have four : Sorts rank [a, b, c, d] (sortFour less a b c d) := sorts_sortFour (h.mono (by simp))
    have same : Alike rank (sortFour less a b c d ++ r) (a :: b :: c :: d :: r) :=
      four.alike.append (.refl r)
    exact (sorts_extend (h.mono same.subset) four.rising).trans_alike same
  · exact sorts_extend h .nil

theorem sorts_sortSmall? {l : List α} (h : Ranks less rank l) :
    ∃ m, sortSmall? less l = some m ∧ Sorts rank l m := by
  have halves (f : List α → List α) (hf : ∀ m ⊆ l, Sorts rank m (f m)) (n : Nat) :
      ∃ m, mergeFromBoth? less (f (l.take n)) (f (l.drop n)) = some m ∧ Sorts rank l m := by
    have left := hf (l.take n) (List.take_subset n l)
    have right := hf (l.drop n) (List.drop_subset n l)
    have same : Alike rank (f (l.take n) ++ f (l.drop n)) l := by
      simpa using left.alike.append right.alike
    obtain ⟨m, merged, sorts⟩ :=
      sorts_mergeFromBoth? (h.mono same.subset) left.rising right.rising
    exact ⟨m, merged, sorts.trans_alike same⟩
  unfold sortSmall?
  dsimp only
  split
  · exact halves _ (fun m hm => sorts_extend (h.mono hm) .nil) _
  · exact halves _ (fun m hm => sorts_sortHalf (h.mono hm)) _

end DataGrid.Sort
