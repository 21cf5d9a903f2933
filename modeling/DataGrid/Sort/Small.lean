import DataGrid.Sort.Insertion
import DataGrid.Sort.Merge

/-!
# Short lists

A list of at most `smallLimit` elements is cut in two halves, which are sorted by insertion and
merged from both sides, if the sides do not come for the same element. If there are enough
elements, the first four of each half are sorted by five comparisons beforehand.
-/

namespace DataGrid.Sort

variable {α : Type u}

/-- Two elements in order. -/
def ordered (less : α → α → Bool) (a b : α) : α × α := if less b a then (b, a) else (a, b)

/-- Four elements in order: those of two ordered pairs, of which the first and the last come from
the comparison of the pairs, and the two between them from one more. -/
def sortFour (less : α → α → Bool) (a b c d : α) : List α :=
  let (a, b) := ordered less a b
  let (c, d) := ordered less c d
  let (first, last, left, right) := match less c a, less d b with
    | false, false => (a, d, b, c)
    | false, true => (a, b, c, d)
    | true, false => (c, d, a, b)
    | true, true => (c, b, a, d)
  let (left, right) := ordered less left right
  [first, left, right, last]

/-- A half sorted, with four elements sorted beforehand if there are so many. -/
def sortHalf (less : α → α → Bool) : List α → List α
  | a :: b :: c :: d :: r => extend less (sortFour less a b c d) r
  | l => extend less [] l

/-- The longest list that is sorted in two halves. -/
def smallLimit : Nat := 32

def sortSmall? (less : α → α → Bool) (l : List α) : Option (List α) :=
  let sort := if l.length < 8 then extend less [] else sortHalf less
  let half := l.length / 2
  mergeFromBoth? less (sort (l.take half)) (sort (l.drop half))

theorem ordered_perm (less : α → α → Bool) (a b : α) :
    [(ordered less a b).1, (ordered less a b).2].Perm [a, b] := by
  unfold ordered
  split
  · exact .swap a b []
  · exact .refl _

theorem sortFour_perm (less : α → α → Bool) (a b c d : α) :
    (sortFour less a b c d).Perm [a, b, c, d] := by
  have pairs := (ordered_perm less a b).append (ordered_perm less c d)
  refine List.Perm.trans ?_ pairs
  unfold sortFour
  generalize ordered less a b = p, ordered less c d = q
  obtain ⟨a, b⟩ := p
  obtain ⟨c, d⟩ := q
  have between (l r x y : α) (h : [x, l, r, y].Perm [a, b, c, d]) :
      [x, (ordered less l r).1, (ordered less l r).2, y].Perm [a, b, c, d] :=
    .trans (.cons x ((ordered_perm less l r).append_right [y])) h
  have hb : [c, d, b].Perm [b, c, d] := @List.perm_append_comm _ [c, d] [b]
  have hc : [c, a, b, d].Perm [a, b, c, d] :=
    (@List.perm_append_comm _ [c] [a, b]).append_right [d]
  dsimp only
  split
  · exact between _ _ _ _ (.refl _)
  · exact between _ _ _ _ (.cons a hb)
  · exact between _ _ _ _ hc
  · exact between _ _ _ _ ((List.Perm.swap a c [d, b]).trans (.cons a hb))

theorem sortHalf_perm (less : α → α → Bool) (l : List α) : (sortHalf less l).Perm l := by
  unfold sortHalf
  split
  · exact (extend_perm less _ _).trans ((sortFour_perm less ..).append_right _)
  · exact extend_perm less [] _

theorem sortSmall?_perm {less : α → α → Bool} {l m : List α} (h : sortSmall? less l = some m) :
    m.Perm l := by
  have halves {f : List α → List α} {n : Nat} (hf : ∀ l, (f l).Perm l)
      (h : mergeFromBoth? less (f (l.take n)) (f (l.drop n)) = some m) : m.Perm l := by
    refine (mergeFromBoth?_perm h).trans (((hf _).append (hf _)).trans ?_)
    rw [List.take_append_drop]
  unfold sortSmall? at h
  dsimp only at h
  split at h
  · exact halves (extend_perm less []) h
  · exact halves (sortHalf_perm less) h

end DataGrid.Sort
