import DataGrid.Proofs.Sort.Rank
import DataGrid.Proofs.Value.TotalOrder
import DataGrid.Query.EntryOrder

/-!
# Which orders sort entries

Every order of entries by key is a total preorder, and so is one by value or by attribute if no
three of the values straddle an end of the decimals. That a value has a decimal or is no number is
enough.
-/

namespace DataGrid

namespace Sort.TotalPreorder

variable {α β : Type} {cmp : α → α → Ordering} {l : List α}

theorem comap {f : β → α} {m : List β} (h : TotalPreorder cmp (m.map f)) :
    TotalPreorder (fun a b => cmp (f a) (f b)) m where
  swap _ ha _ hb := h.swap _ (List.mem_map_of_mem ha) _ (List.mem_map_of_mem hb)
  trans _ ha _ hb _ hc := h.trans _ (List.mem_map_of_mem ha) _ (List.mem_map_of_mem hb) _
    (List.mem_map_of_mem hc)

theorem converse (h : TotalPreorder cmp l) : TotalPreorder (fun a b => cmp b a) l where
  swap a ha b hb := h.swap b hb a ha
  trans a ha b hb c hc ab bc := h.trans c hc b hb a ha bc ab

theorem of_compare [Ord α] [Std.TransOrd α] (l : List α) : TotalPreorder (α := α) compare l where
  swap _ _ _ _ := Std.OrientedCmp.eq_swap
  trans _ _ _ _ _ _ ab bc :=
    Ordering.ne_gt_iff_isLE.2 <|
      Std.TransCmp.isLE_trans (Ordering.ne_gt_iff_isLE.1 ab) (Ordering.ne_gt_iff_isLE.1 bc)

end Sort.TotalPreorder

open DataGrid.Sort

namespace Value

/-- Values of which no three straddle an end of the decimals. -/
def Level (vs : List Value) : Prop := ∀ a ∈ vs, ∀ b ∈ vs, ∀ c ∈ vs, ¬ Straddles a b c

theorem Level.totalPreorder {vs : List Value} (h : Level vs) : TotalPreorder totalCompare vs where
  swap a _ b _ := totalCompare_swap a b
  trans a ha b hb c hc ab bc := by
    rw [← totalLe_iff] at *
    exact (totalLe_trans_iff ab bc).2 (h a ha b hb c hc)

end Value

namespace EntryOrder

theorem totalPreorder_compareOptions {os : List (Option Value)}
    (h : Value.Level (os.filterMap id)) : TotalPreorder compareOptions os where
  swap a ha b hb := by
    cases a <;> cases b
    · rfl
    · rfl
    · rfl
    · exact Value.totalCompare_swap _ _
  trans a ha b hb c hc ab bc := by
    have mem {v : Value} (hv : some v ∈ os) : v ∈ os.filterMap id :=
      List.mem_filterMap.2 ⟨some v, hv, rfl⟩
    cases a with
    | none => cases c <;> simp [compareOptions]
    | some u =>
      cases b with
      | none => simp [compareOptions] at ab
      | some v =>
        cases c with
        | none => simp [compareOptions] at bc
        | some w => exact h.totalPreorder.trans u (mem ha) v (mem hb) w (mem hc) ab bc

theorem totalPreorder_byKey (es : List Entry) : TotalPreorder byKey.compare es :=
  (TotalPreorder.of_compare (es.map (·.key))).comap

theorem totalPreorder_byValue {es : List Entry} (h : Value.Level (es.map (·.value))) :
    TotalPreorder byValue.compare es :=
  h.totalPreorder.comap

theorem totalPreorder_byAttribute {es : List Entry} {p : AttributePath}
    (h : Value.Level (es.filterMap (·.extract p))) : TotalPreorder (byAttribute p).compare es := by
  have level : Value.Level ((es.map (·.extract p)).filterMap id) := by
    rwa [List.filterMap_map]
  exact (totalPreorder_compareOptions level).comap

theorem totalPreorder_reversed {o : EntryOrder} {es : List Entry}
    (h : TotalPreorder o.compare es) : TotalPreorder o.reversed.compare es := h.converse

end EntryOrder

end DataGrid
