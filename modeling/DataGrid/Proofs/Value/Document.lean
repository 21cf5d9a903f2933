import DataGrid.Json.Decode
import DataGrid.Proofs.Value.Exact
import Mathlib.Data.List.Nodup

/-!
# Values as documents

The document of a JSON value has no defects, and that of a value whose fields come in key order is
read as it was written (`toJson_ofJson_toJson`).
-/

namespace DataGrid

namespace Fields

variable {α : Type} {fs : Fields α} {k : String} {v : α}

theorem insert_of_lt (last : ∀ p ∈ fs, p.1 < k) : fs.insert k v = fs ++ [(k, v)] := by
  induction fs with
  | nil => rfl
  | cons p fs ih =>
    obtain ⟨j, w⟩ := p
    obtain ⟨lt, rest⟩ := List.forall_mem_cons.1 last
    have after : ¬ k < j := String.lt_asymm lt
    have other : k ≠ j := fun e => String.lt_irrefl j (e ▸ lt)
    rw [insert, if_neg after, if_neg other, ih rest, List.cons_append]

/-- With the next member at their end the first ones still stand before the rest. -/
theorem lt_of_mem_concat {β : Type} {u : β} {gs : Fields β}
    (before : ∀ p ∈ fs, ∀ q ∈ (k, u) :: gs, p.1 < q.1) (least : ∀ q ∈ gs, k < q.1) :
    ∀ p ∈ fs ++ [(k, v)], ∀ q ∈ gs, p.1 < q.1 := by
  intro p hp q hq
  rcases List.mem_append.1 hp with old | new
  · exact before p old q (.tail _ hq)
  · rw [List.mem_singleton.1 new]
    exact least q hq

theorem find?_ofList {l : List (String × α)} (distinct : (l.map (·.1)).Nodup) (h : (k, v) ∈ l) :
    (ofList l).find? k = some v := by
  have kept (l : List (String × α)) (fs : Fields α) (ascending : fs.Ascending)
      (absent : k ∉ l.map (·.1)) :
      (l.foldl (fun fs p => fs.insert p.1 p.2) fs).find? k = fs.find? k := by
    induction l generalizing fs with
    | nil => rfl
    | cons p l ih =>
      rw [List.map_cons, List.mem_cons, not_or] at absent
      rw [List.foldl_cons, ih _ (ascending.insert _ _) absent.2, find?_insert _ _ _ _ ascending,
        if_neg (Ne.symm absent.1)]
  suffices found : ∀ fs : Fields α, fs.Ascending →
      (l.foldl (fun fs p => fs.insert p.1 p.2) fs).find? k = some v from found [] ascending_nil
  induction l with
  | nil => cases h
  | cons p l ih =>
    intro fs ascending
    obtain ⟨new, distinct⟩ := List.nodup_cons.1 distinct
    rcases List.mem_cons.1 h with rfl | later
    · rw [List.foldl_cons, kept l _ (ascending.insert _ _) new, find?_insert _ _ _ _ ascending,
        if_pos rfl]
    · exact ih distinct later _ (ascending.insert _ _)

end Fields

namespace Document

mutual

theorem exists_toJson_ofJson : ∀ j : Json, ∃ k, (ofJson j).toJson = .ok k
  | .null | .bool _ | .int _ | .float _ | .text _ => ⟨_, rfl⟩
  | .array vs => by
    obtain ⟨us, read⟩ := exists_toJsonItems_ofItems vs
    exact ⟨.array us, by rw [ofJson, toJson, read]; rfl⟩
  | .object fs => by
    obtain ⟨gs, read⟩ := exists_toJsonFields_ofFields [] fs
    exact ⟨.object gs, by rw [ofJson, toJson, read]; rfl⟩

theorem exists_toJsonItems_ofItems : ∀ vs : List Json, ∃ us, toJsonItems (ofItems vs) = .ok us
  | [] => ⟨[], rfl⟩
  | v :: r => by
    obtain ⟨k, first⟩ := exists_toJson_ofJson v
    obtain ⟨us, rest⟩ := exists_toJsonItems_ofItems r
    exact ⟨k :: us, by rw [ofItems, toJsonItems, first, rest]; rfl⟩

theorem exists_toJsonFields_ofFields (seen : List (String × Json)) :
    ∀ fs : List (String × Json), ∃ gs, toJsonFields seen (ofFields fs) = .ok gs
  | [] => ⟨seen, rfl⟩
  | (k, v) :: r => by
    obtain ⟨j, first⟩ := exists_toJson_ofJson v
    obtain ⟨gs, rest⟩ := exists_toJsonFields_ofFields (Fields.insert seen k j) r
    exact ⟨gs, by rw [ofFields, toJsonFields, first]; exact rest⟩

end

theorem check_ofJson (j : Json) : (ofJson j).check = .ok () := by
  obtain ⟨k, read⟩ := exists_toJson_ofJson j
  rw [check, read]
  rfl

end Document

namespace Value

/-- The fields of every object in a list of values come in key order. -/
def InOrder (vs : List Value) : Prop := ∀ fs, .object fs ∈ vs → Fields.Ascending fs

@[simp] theorem inOrder_append (vs us : List Value) :
    InOrder (vs ++ us) ↔ InOrder vs ∧ InOrder us := by
  simp [InOrder, or_imp, forall_and]

@[simp] theorem inOrder_list (vs : List Value) :
    InOrder (parts (.list vs)) ↔ InOrder (partsOfItems vs) := by
  simp [InOrder, parts]

@[simp] theorem inOrder_object (fs : List (String × Value)) :
    InOrder (parts (.object fs)) ↔ Fields.Ascending fs ∧ InOrder (partsOfFields fs) := by
  simp [InOrder, parts]

theorem toJsonItems_eq_map (vs : List Value) : toJsonItems vs = vs.map toJson := by
  induction vs with
  | nil => rfl
  | cons v vs ih => rw [toJsonItems, ih, List.map_cons]

theorem inOrder_partsOfItems {vs : List Value} (order : ∀ v ∈ vs, InOrder v.parts) :
    InOrder (partsOfItems vs) := by
  induction vs with
  | nil => exact nofun
  | cons v vs ih =>
    obtain ⟨first, rest⟩ := List.forall_mem_cons.1 order
    exact (inOrder_append _ _).2 ⟨first, ih rest⟩

mutual

/-- The JSON of a value in order is read as it is written. -/
theorem toJson_ofJson_toJson : ∀ {v : Value}, InOrder v.parts →
    (Document.ofJson v.toJson).toJson = .ok v.toJson
  | .null, _ | .bool _, _ | .int _, _ | .long _, _ | .bigInteger _, _ | .bigDecimal _, _
  | .text _, _ => rfl
  | .double x, _ => by
    rw [toJson]
    split <;> rfl
  | .list vs, order => by
    rw [toJson, Document.ofJson, Document.toJson,
      toJsonItems_ofItems_toJsonItems ((inOrder_list vs).1 order)]
    rfl
  | .object fs, order => by
    obtain ⟨ascending, order⟩ := (inOrder_object fs).1 order
    rw [toJson, Document.ofJson, Document.toJson,
      toJsonFields_ofFields_toJsonFields order ascending [] nofun]
    rfl

theorem toJsonItems_ofItems_toJsonItems : ∀ {vs : List Value}, InOrder (partsOfItems vs) →
    Document.toJsonItems (Document.ofItems (toJsonItems vs)) = .ok (toJsonItems vs)
  | [], _ => rfl
  | v :: r, order => by
    obtain ⟨first, rest⟩ := (inOrder_append v.parts (partsOfItems r)).1 order
    rw [toJsonItems, Document.ofItems, Document.toJsonItems, toJson_ofJson_toJson first,
      toJsonItems_ofItems_toJsonItems rest]
    rfl

/-- The members that have been read stand before those to come. -/
theorem toJsonFields_ofFields_toJsonFields : ∀ {fs : List (String × Value)},
    InOrder (partsOfFields fs) → Fields.Ascending fs → ∀ seen : List (String × Json),
    (∀ p ∈ seen, ∀ q ∈ fs, p.1 < q.1) →
    Document.toJsonFields seen (Document.ofFields (toJsonFields fs)) = .ok (seen ++ toJsonFields fs)
  | [], _, _, seen, _ => by rw [toJsonFields, List.append_nil]; rfl
  | (k, v) :: r, order, ascending, seen, before => by
    obtain ⟨first, rest⟩ := (inOrder_append v.parts (partsOfFields r)).1 order
    obtain ⟨least, ascending⟩ := List.pairwise_cons.1 ascending
    have last : ∀ p ∈ seen, p.1 < k := fun p hp => before p hp (k, v) List.mem_cons_self
    rw [toJsonFields, Document.ofFields, Document.toJsonFields, toJson_ofJson_toJson first]
    change Document.toJsonFields (Fields.insert seen k v.toJson) _ = _
    rw [Fields.insert_of_lt last, toJsonFields_ofFields_toJsonFields rest ascending _
      (Fields.lt_of_mem_concat before least), List.append_assoc, List.singleton_append]

end

end Value

end DataGrid
