/-!
# Insertion

Elements are inserted one after the other, each from the right, past those it comes before.
-/

namespace DataGrid.Sort

variable {α : Type u}

/-- Puts `x` into a list in reverse order, in front of the first element not greater than it. -/
def insertReversed (less : α → α → Bool) (x : α) : List α → List α
  | [] => [x]
  | y :: r => if less x y then y :: insertReversed less x r else x :: y :: r

/-- The list sorted by inserting its elements into what is there in reverse, in reverse. -/
def insertAll (less : α → α → Bool) (sorted : List α) : List α → List α
  | [] => sorted
  | x :: r => insertAll less (insertReversed less x sorted) r

/-- A sorted list with more elements inserted. -/
def extend (less : α → α → Bool) (sorted rest : List α) : List α :=
  (insertAll less sorted.reverse rest).reverse

theorem insertReversed_perm (less : α → α → Bool) (x : α) (l : List α) :
    (insertReversed less x l).Perm (x :: l) := by
  induction l with
  | nil => exact .refl _
  | cons y r ih =>
    unfold insertReversed
    split
    · exact (ih.cons y).trans (.swap x y r)
    · exact .refl _

theorem insertAll_perm (less : α → α → Bool) (sorted l : List α) :
    (insertAll less sorted l).Perm (sorted ++ l) := by
  induction l generalizing sorted with
  | nil => simp [insertAll]
  | cons x r ih =>
    refine (ih _).trans (((insertReversed_perm less x sorted).append_right r).trans ?_)
    exact List.perm_middle.symm

theorem extend_perm (less : α → α → Bool) (sorted rest : List α) :
    (extend less sorted rest).Perm (sorted ++ rest) :=
  (List.reverse_perm _).trans <|
    (insertAll_perm less _ _).trans ((List.reverse_perm sorted).append_right rest)

end DataGrid.Sort
