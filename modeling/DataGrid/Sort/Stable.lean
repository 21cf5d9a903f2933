import DataGrid.Sort.Quick

/-!
# Stable sorting

Sorting by a strict comparison, so that elements which compare as equal keep their places. Short
lists are sorted by insertion, longer ones by their runs; of those, the runs of a list that is
not much longer than a run are sorted at once. If the comparison does not order the elements, the
way the result comes about decides which permutation of the list it is, and whether there is one:
a sort that finds the comparison contradicting itself gives up. Short lists are always sorted.
-/

namespace DataGrid

variable {α : Type u}

/-- The longest list that is sorted by insertion. -/
def insertionLimit : Nat := 20

/-- The sorted list; nothing if the sort gives up. -/
def stableSort? (less : α → α → Bool) (l : List α) : Option (List α) :=
  if l.length ≤ insertionLimit then some (Sort.extend less [] l)
  else if l.length ≤ 2 * Sort.smallLimit then Sort.sortRuns? less true (Sort.sortSmall? less) l
  else
    Sort.sortRuns? less false (fun part => Sort.quicksort? less (2 * part.length.log2) none part) l

theorem stableSort?_perm {less : α → α → Bool} {l m : List α} (h : stableSort? less l = some m) :
    m.Perm l := by
  unfold stableSort? at h
  split at h
  · obtain rfl := Option.some.inj h
    exact Sort.extend_perm less [] l
  · split at h
    · exact Sort.sortRuns?_perm (fun _ _ => Sort.sortSmall?_perm) l m h
    · exact Sort.sortRuns?_perm (fun part => Sort.quicksort?_perm less _ none part) l m h

/-- A list that is sorted by insertion is sorted whatever the comparison does. -/
theorem isSome_stableSort? (less : α → α → Bool) {l : List α} (h : l.length ≤ insertionLimit) :
    (stableSort? less l).isSome = true := by
  rw [stableSort?, if_pos h]
  rfl

end DataGrid
