/-!
# Merging

Two sorted lists become one. Of elements that compare as equal those of the left list come
first. A merge works from the front, from the back, or from both sides, of which neither knows
what the other has taken. If the comparison orders the elements, this makes no difference. If it
does not, the side decides, and two sides may come for the same element: that is noticed, and
there is no result.
-/

namespace DataGrid.Sort

variable {α : Type u}

/-- Two lists while elements are taken from their fronts. -/
structure Partway (α : Type u) where
  /-- What has been taken, the last one first. -/
  taken : List α
  left : List α
  right : List α

/-- Takes `n` more elements, or until a list runs out; the next one comes from the left list if
`fromLeft` says so of the first elements of both. -/
def Partway.take (fromLeft : α → α → Bool) : Nat → Partway α → Partway α
  | n + 1, ⟨t, x :: l, y :: r⟩ =>
    if fromLeft x y then take fromLeft n ⟨x :: t, l, y :: r⟩
    else take fromLeft n ⟨y :: t, x :: l, r⟩
  | _, p => p

/-- The first `n` elements of a merge, and the rest of both lists. -/
def takeFront (less : α → α → Bool) (n : Nat) (l r : List α) : Partway α :=
  .take (fun x y => !less y x) n ⟨[], l, r⟩

/-- The last `n` elements of a merge, and the rest of both lists in reverse. -/
def takeBack (less : α → α → Bool) (n : Nat) (l r : List α) : Partway α :=
  .take (fun x y => less y x) n ⟨[], l.reverse, r.reverse⟩

/-- The middle of a list of length `n`, which ends with `l` and begins with `m` in reverse. -/
def between (n : Nat) (l m : List α) : List α := l.take (l.length + m.length - n)

/-- No element is taken both with the first `n` and with the last `k`. -/
def Apart (less : α → α → Bool) (n k : Nat) (l r : List α) : Prop :=
  l.length ≤ (takeFront less n l r).left.length + (takeBack less k l r).left.length ∧
    r.length ≤ (takeFront less n l r).right.length + (takeBack less k l r).right.length

instance (less : α → α → Bool) (n k : Nat) (l r : List α) : Decidable (Apart less n k l r) :=
  inferInstanceAs (Decidable (_ ∧ _))

/-- The first `n` elements, those that are left over, and the last `k`. -/
def mergeSides (less : α → α → Bool) (n k : Nat) (l r : List α) : List α :=
  let front := takeFront less n l r
  let back := takeBack less k l r
  front.taken.reverse ++ (between l.length front.left back.left ++
    (between r.length front.right back.right ++ back.taken))

/-- Merges from the side on which the shorter list is. -/
def merge (less : α → α → Bool) (l r : List α) : List α :=
  let n := l.length + r.length
  if l.length ≤ r.length then mergeSides less n 0 l r else mergeSides less 0 n l r

/-- Merges half of the elements from the front and half from the back, if no element is among
both. -/
def mergeFromBoth? (less : α → α → Bool) (l r : List α) : Option (List α) :=
  let n := (l.length + r.length) / 2
  if Apart less n n l r then some (mergeSides less n n l r) else none

theorem Partway.take_perm (fromLeft : α → α → Bool) (n : Nat) (p : Partway α) :
    ∃ a b, p.left = a ++ (p.take fromLeft n).left ∧ p.right = b ++ (p.take fromLeft n).right ∧
      (p.take fromLeft n).taken.Perm (a ++ b ++ p.taken) := by
  fun_induction Partway.take fromLeft n p with
  | case1 n t x l y r _ ih =>
    obtain ⟨a, b, left, right, perm⟩ := ih
    refine ⟨x :: a, b, congrArg (x :: ·) left, right, perm.trans ?_⟩
    exact List.perm_middle
  | case2 n t x l y r _ ih =>
    obtain ⟨a, b, left, right, perm⟩ := ih
    refine ⟨a, y :: b, left, congrArg (y :: ·) right, perm.trans ?_⟩
    have later : (b ++ y :: t).Perm (y :: (b ++ t)) := List.perm_middle
    simpa using later.append_left a
  | case3 => exact ⟨[], [], rfl, rfl, .refl _⟩

/-- A list from whose ends two parts have been taken that do not meet. -/
theorem append_between {l a c left back : List α} (front : l = a ++ left)
    (rear : l.reverse = c ++ back) (apart : l.length ≤ left.length + back.length) :
    l = a ++ (between l.length left back ++ c.reverse) := by
  have size := congrArg List.length front
  rw [List.length_append] at size
  have start : left.length + back.length - l.length = back.length - a.length := by omega
  have ends : left.drop (back.length - a.length) = c.reverse := by
    have whole : l = back.reverse ++ c.reverse := by simpa using congrArg List.reverse rear
    calc left.drop (back.length - a.length)
        = (a ++ left).drop (a.length + (back.length - a.length)) := (List.drop_length_add_append _).symm
      _ = (back.reverse ++ c.reverse).drop back.reverse.length := by
        rw [← front, ← whole, List.length_reverse]
        congr 1
        omega
      _ = c.reverse := List.drop_left
  rw [between, start, ← ends, List.take_append_drop]
  exact front

theorem mergeSides_perm {less : α → α → Bool} {n k : Nat} {l r : List α}
    (apart : Apart less n k l r) : (mergeSides less n k l r).Perm (l ++ r) := by
  classical
  obtain ⟨a, b, left, right, front⟩ := Partway.take_perm (fun x y => !less y x) n ⟨[], l, r⟩
  obtain ⟨c, d, left', right', back⟩ :=
    Partway.take_perm (fun x y => less y x) k ⟨[], l.reverse, r.reverse⟩
  have hl := append_between left left' apart.1
  have hr := append_between right right' apart.2
  rw [List.perm_iff_count]
  intro x
  have count_l := congrArg (List.count x) hl
  have count_r := congrArg (List.count x) hr
  have count_front := front.count_eq x
  have count_back := back.count_eq x
  simp only [List.count_append, List.count_reverse, List.count_nil] at *
  simp only [mergeSides, takeFront, takeBack, List.count_append, List.count_reverse]
  omega

theorem merge_perm (less : α → α → Bool) (l r : List α) : (merge less l r).Perm (l ++ r) := by
  have none {f : α → α → Bool} {p : Partway α} : p.take f 0 = p := by
    rw [Partway.take]
    simp
  unfold merge
  dsimp only
  split
  · refine mergeSides_perm ⟨?_, ?_⟩ <;> simp [takeBack, none]
  · refine mergeSides_perm ⟨?_, ?_⟩ <;> simp [takeFront, none]

theorem mergeFromBoth?_perm {less : α → α → Bool} {l r m : List α}
    (h : mergeFromBoth? less l r = some m) : m.Perm (l ++ r) := by
  unfold mergeFromBoth? at h
  dsimp only at h
  split at h
  · next apart =>
    obtain rfl := Option.some.inj h
    exact mergeSides_perm apart
  · cases h

end DataGrid.Sort
