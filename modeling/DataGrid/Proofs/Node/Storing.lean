import DataGrid.Node.Basic
import DataGrid.Proofs.Store.PlainMap
import DataGrid.Proofs.Value.Exact

/-!
# Documents stored in a node

What a client puts under a key it gets back, as far as plain JSON is exact. Main statement:
`plain_json_exact`.
-/

namespace DataGrid

namespace Node

variable {n : Node} {c k : String} {j : Json}

theorem put_of_ne_empty (hc : c ≠ "") (hk : k ≠ "") :
    n.put ⟨c, k, j⟩ = (.ok ⟨n.store.partitioning.partitionOf k, (n.store.get? c k).isSome⟩,
      { n with store := (n.store.put c k (.ofJson j)).2 }) := by
  simp [put, hc, hk, Store.put]

theorem get_put (hc : c ≠ "") (hk : k ≠ "") :
    (n.put ⟨c, k, j⟩).2.get c k = ⟨k, some (.ofJson j)⟩ := by
  simp [put_of_ne_empty hc hk, get, Store.get?_put]

/-- Plain JSON is exact for documents whose integers are signed ones of 64 bits, and for values
without the kinds of numbers that it does not tell apart; only for these. A document of that kind
that is put under a key is what is got from there. -/
theorem plain_json_exact :
    (∀ j : Json, j.InRange →
      ((Value.ofJson j).toJson = j ↔ Json.Signed j.parts) ∧
      (Json.Signed j.parts → ∀ (n : Node) (c k : String), c ≠ "" → k ≠ "" →
        ∃ a n', n.put ⟨c, k, j⟩ = (.ok a, n') ∧ (n'.get c k).value.map Value.toJson = some j)) ∧
    ∀ v : Value, ((Value.ofJson v.toJson == v) = true ↔ Value.Kept v.parts) ∧
      (Value.ofJson v.toJson = v ↔ Value.Kept v.parts) := by
  refine ⟨fun j range => ⟨Value.toJson_ofJson_iff range, fun signed n c k hc hk => ?_⟩,
    Value.reread_iff⟩
  have got : (n.put ⟨c, k, j⟩).2.get c k = ⟨k, some (.ofJson j)⟩ := get_put hc hk
  rw [put_of_ne_empty hc hk] at got
  refine ⟨_, _, put_of_ne_empty hc hk, ?_⟩
  rw [got, Option.map_some, (Value.toJson_ofJson_iff range).2 signed]

end Node

end DataGrid
