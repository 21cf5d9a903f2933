/-!
# Worker slots

A fixed number of slots that jobs hold while they work. Who finds none free waits in line, and
a slot that is given back goes to the first in line. Main statement: the free slots and the
held ones are the capacity.
-/

namespace DataGrid

structure Slots where
  capacity : Nat
  free : Nat
  /-- The jobs in line, the first to be served first. -/
  waiting : List Nat
  holding : List Nat

namespace Slots

/-- Slots that are all free; there is at least one. -/
def ofCapacity (n : Nat) : Slots := ⟨max n 1, max n 1, [], []⟩

/-- A job takes a free slot or joins the line. -/
def acquire (s : Slots) (i : Nat) : Slots :=
  if 0 < s.free then { s with free := s.free - 1, holding := i :: s.holding }
  else { s with waiting := s.waiting ++ [i] }

/-- A job gives its slot back. -/
def release (s : Slots) (i : Nat) : Slots :=
  if i ∈ s.holding then
    match s.waiting with
    | j :: r => { s with waiting := r, holding := j :: s.holding.erase i }
    | [] => { s with free := s.free + 1, holding := s.holding.erase i }
  else s

/-- A job leaves the line, or gives back the slot it got there. -/
def withdraw (s : Slots) (i : Nat) : Slots :=
  if i ∈ s.waiting then { s with waiting := s.waiting.erase i } else s.release i

/-- The job in line that has been served between two states. -/
def served? (old new : Slots) : Option Nat := old.waiting.head?.filter (· ∈ new.holding)

/-- Every slot is free or held. -/
def Accounted (s : Slots) : Prop := s.free + s.holding.length = s.capacity

theorem accounted_ofCapacity (n : Nat) : (ofCapacity n).Accounted := by simp [Accounted, ofCapacity]

theorem Accounted.acquire {s : Slots} (h : s.Accounted) (i : Nat) : (s.acquire i).Accounted := by
  unfold Slots.acquire Accounted at *
  split <;> simp <;> omega

theorem Accounted.release {s : Slots} (h : s.Accounted) (i : Nat) : (s.release i).Accounted := by
  unfold Slots.release Accounted at *
  split
  · rename_i hi
    have := List.length_erase_of_mem hi
    have := List.length_pos_of_mem hi
    split <;> simp <;> omega
  · exact h

end Slots

end DataGrid
