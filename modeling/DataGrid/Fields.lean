/-!
# Fields in key order

The members of an object as a list of pairs whose keys ascend. `insert` keeps the order and
replaces the value of a key that is already there.
-/

namespace DataGrid

abbrev Fields (α : Type u) := List (String × α)

namespace Fields

variable {α : Type u} {β : Type v}

/-- Every key is smaller than all later ones. -/
def Ascending (fs : Fields α) : Prop := fs.Pairwise fun a b => a.1 < b.1

def find? (fs : Fields α) (k : String) : Option α :=
  match fs with
  | [] => none
  | (j, v) :: r => if j = k then some v else find? r k

def insert (fs : Fields α) (k : String) (v : α) : Fields α :=
  match fs with
  | [] => [(k, v)]
  | (j, w) :: r =>
    if k < j then (k, v) :: (j, w) :: r
    else if k = j then (k, v) :: r
    else (j, w) :: insert r k v

/-- The members of a list of pairs; of a repeated key the last value stays. -/
def ofList (l : List (String × α)) : Fields α := l.foldl (fun fs p => fs.insert p.1 p.2) []

@[simp] theorem find?_nil (k : String) : find? ([] : Fields α) k = none := rfl

theorem ascending_nil : Ascending ([] : Fields α) := List.Pairwise.nil

theorem mem_insert {fs : Fields α} {k : String} {v : α} {p : String × α}
    (h : p ∈ fs.insert k v) : p = (k, v) ∨ p ∈ fs := by
  induction fs with
  | nil => simpa [insert] using h
  | cons q r ih =>
    obtain ⟨j, w⟩ := q
    simp only [insert] at h
    split at h
    · simpa using h
    · split at h
      · rcases List.mem_cons.1 h with h | h
        · exact .inl h
        · exact .inr (List.mem_cons_of_mem _ h)
      · rcases List.mem_cons.1 h with h | h
        · exact .inr (by simp [h])
        · rcases ih h with h | h
          · exact .inl h
          · exact .inr (List.mem_cons_of_mem _ h)

theorem Ascending.insert {fs : Fields α} (h : fs.Ascending) (k : String) (v : α) :
    (fs.insert k v).Ascending := by
  induction fs with
  | nil => simp [Fields.insert, Ascending]
  | cons q r ih =>
    obtain ⟨j, w⟩ := q
    have hr : Ascending r := (List.pairwise_cons.1 h).2
    have hj := (List.pairwise_cons.1 h).1
    simp only [Fields.insert]
    split
    · next lt =>
      refine List.pairwise_cons.2 ⟨fun p hp => ?_, h⟩
      rcases List.mem_cons.1 hp with rfl | hp
      · exact lt
      · exact String.lt_trans lt (hj p hp)
    · split
      · next eq => subst eq; exact List.pairwise_cons.2 ⟨hj, hr⟩
      · next nlt ne =>
        refine List.pairwise_cons.2 ⟨fun p hp => ?_, ih hr⟩
        rcases mem_insert hp with rfl | hp
        · exact Std.lt_of_le_of_ne (String.not_lt.1 nlt) (fun e => ne e.symm)
        · exact hj p hp

theorem ascending_ofList (l : List (String × α)) : (ofList l).Ascending := by
  suffices h : ∀ fs : Fields α, fs.Ascending →
      (l.foldl (fun fs p => fs.insert p.1 p.2) fs).Ascending from h [] ascending_nil
  induction l with
  | nil => exact fun fs h => h
  | cons p r ih => exact fun fs h => ih _ (h.insert p.1 p.2)

theorem find?_insert (fs : Fields α) (k j : String) (v : α) (h : fs.Ascending) :
    (fs.insert k v).find? j = if k = j then some v else fs.find? j := by
  induction fs with
  | nil => simp [insert, find?]
  | cons q r ih =>
    obtain ⟨i, w⟩ := q
    have hr : Ascending r := (List.pairwise_cons.1 h).2
    simp only [insert]
    split
    · simp only [find?]
    · split
      · next eq => subst eq; simp only [find?]; split <;> rfl
      · simp only [find?, ih hr]
        by_cases hi : i = j
        · subst hi; simp_all
        · simp [hi]

end Fields

end DataGrid
