import DataGrid.Proofs.Query.EntryOrder
import DataGrid.Value.Plain

/-!
# Values that go to a client and come back

A value read from JSON goes out as JSON and is read again when it comes back. A big integer comes
back as a text. Every other value keeps its place among all values (`totalCompare_reread`), also as
what a path leads to (`extract_reread`). Values read from JSON are totally ordered (`level_of_plain`).
-/

namespace DataGrid

namespace Json

mutual

/-- Every number is one that JSON keeps: an integer in the exact range, or a finite double. -/
def InRange : Json → Prop
  | .null | .bool _ | .text _ => True
  | .int n => IntegerRange n
  | .float x => x.isFinite = true
  | .array vs => ItemsInRange vs
  | .object fs => FieldsInRange fs

def ItemsInRange : List Json → Prop
  | [] => True
  | v :: r => v.InRange ∧ ItemsInRange r

def FieldsInRange : List (String × Json) → Prop
  | [] => True
  | (_, v) :: r => v.InRange ∧ FieldsInRange r

end

theorem FieldsInRange.find? {fs : List (String × Json)} (h : FieldsInRange fs) {k : String} {j : Json}
    (found : Fields.find? fs k = some j) : j.InRange := by
  induction fs with
  | nil => cases found
  | cons p fs ih =>
    obtain ⟨i, v⟩ := p
    rw [Fields.find?] at found
    split at found
    · obtain rfl := Option.some.inj found
      exact h.1
    · exact ih h.2 found

end Json

namespace Value

/-- A value that was read from JSON. -/
def Plain (v : Value) : Prop := ∃ j : Json, j.InRange ∧ v = ofJson j

/-- What comes back of a value that has been sent as JSON. -/
def reread (v : Value) : Value := .ofJson v.toJson

/-! ## Fields -/

theorem find?_ofJsonFields (fs : List (String × Json)) (k : String) :
    Fields.find? (ofJsonFields fs) k = (Fields.find? fs k).map ofJson := by
  induction fs with
  | nil => rfl
  | cons p fs ih =>
    obtain ⟨i, v⟩ := p
    rw [ofJsonFields, Fields.find?, Fields.find?]
    split
    · rfl
    · exact ih

theorem find?_toJsonFields (fs : List (String × Value)) (k : String) :
    Fields.find? (toJsonFields fs) k = (Fields.find? fs k).map toJson := by
  induction fs with
  | nil => rfl
  | cons p fs ih =>
    obtain ⟨i, v⟩ := p
    rw [toJsonFields, Fields.find?, Fields.find?]
    split
    · rfl
    · exact ih

theorem field?_ofInteger (n : Int) (k : String) : (ofInteger n).field? k = none := by
  unfold ofInteger
  split <;> rfl

theorem Plain.field? {v w : Value} (h : v.Plain) {k : String} (found : v.field? k = some w) :
    w.Plain := by
  obtain ⟨j, range, rfl⟩ := h
  cases j with
  | object fs =>
    change Fields.find? (ofJsonFields fs) k = some w at found
    rw [find?_ofJsonFields] at found
    obtain ⟨i, hi, rfl⟩ := Option.map_eq_some_iff.1 found
    exact ⟨i, range.find? hi, rfl⟩
  | int n =>
    rw [ofJson, field?_ofInteger] at found
    cases found
  | _ => cases found

theorem field?_reread (v : Value) (k : String) : v.reread.field? k = (v.field? k).map reread := by
  cases v with
  | object fs =>
    change Fields.find? (ofJsonFields (toJsonFields fs)) k = (Fields.find? fs k).map reread
    rw [find?_ofJsonFields, find?_toJsonFields, Option.map_map]
    rfl
  | int n => exact field?_ofInteger n.toInt k
  | long n => exact field?_ofInteger n.toInt k
  | double x =>
    unfold reread toJson
    split <;> rfl
  | _ => rfl

/-! ## The place in the order -/

theorem reread_long (n : Int64) : (long n).reread = long n := by
  have range : -2 ^ 63 ≤ n.toInt ∧ n.toInt < 2 ^ 63 := ⟨n.le_toInt, n.toInt_lt⟩
  change ofInteger n.toInt = long n
  rw [ofInteger, if_pos range, Int64.ofInt_toInt]

/-- Nothing but its kind counts about a list. -/
theorem totalCompare_list (w : Value) (vs us : List Value) :
    w.totalCompare (list vs) = w.totalCompare (list us) := by
  cases w <;> rfl

theorem totalCompare_object (w : Value) (fs gs : List (String × Value)) :
    w.totalCompare (object fs) = w.totalCompare (object gs) := by
  cases w <;> rfl

theorem Plain.cases {v : Value} (h : v.Plain) :
    (∃ n, v = bigInteger n ∧ n.natAbs < 2 ^ 64) ∨ (∃ x, v = double x ∧ x.isFinite = true) ∨
      (∃ n, v = long n) ∨ v.isNumeric = false := by
  obtain ⟨j, range, rfl⟩ := h
  cases j with
  | int n =>
    obtain ⟨low, high⟩ := range
    rw [ofJson, ofInteger]
    split
    · exact .inr (.inr (.inl ⟨_, rfl⟩))
    · exact .inl ⟨n, rfl, by omega⟩
  | float x => exact .inr (.inl ⟨x, rfl, range⟩)
  | null | bool | text | array | object => exact .inr (.inr (.inr rfl))

theorem totalCompare_reread {v : Value} (h : v.Plain) (small : ∀ n, v ≠ bigInteger n) (w : Value) :
    w.totalCompare v.reread = w.totalCompare v := by
  rcases h.cases with ⟨n, rfl, -⟩ | ⟨x, rfl, finite⟩ | ⟨n, rfl⟩ | other
  · exact absurd rfl (small n)
  · rw [reread, toJson, if_pos finite, ofJson]
  · rw [reread_long]
  · cases v with
    | null | bool | text => rfl
    | list vs => exact totalCompare_list w _ vs
    | object fs => exact totalCompare_object w _ fs
    | int | long | double | bigInteger | bigDecimal => cases other

theorem ofInt_ne_edge {n : Int} (h : n.natAbs < 2 ^ 64) (s : Bool) :
    Binary64.ofInt n ≠ Binary64.pack s Binary64.edge := by
  intro equal
  have place := eq_pack_edge.1 equal
  have below := Binary64.place_ofInt_lt_edge (n := n) (by omega)
  have above := Binary64.place_ofInt_lt_edge (n := -n) (by omega)
  rw [Binary64.place_ofInt_neg] at above
  cases s <;> simp only [Bool.false_eq_true, if_false, if_true] at place <;> omega

/-- Of the numbers that JSON keeps only doubles are as large as where the decimals end, and these
have no decimal. -/
theorem Plain.toDecimal?_of_edge {v : Value} (h : v.Plain) {s : Bool}
    (edge : v.toBinary? = some (Binary64.pack s Binary64.edge)) : v.toDecimal? = none := by
  rcases h.cases with ⟨n, rfl, small⟩ | ⟨x, rfl, -⟩ | ⟨n, rfl⟩ | other
  · exact absurd (Option.some.inj edge) (ofInt_ne_edge small s)
  · obtain rfl : x = _ := Option.some.inj edge
    refine Decimal.ofBinary?_eq_none (Nat.le_of_eq ?_)
    rw [Binary64.magnitude_pack s Binary64.edge (by decide)]
  · have := n.toInt_lt
    have := n.le_toInt
    exact absurd (Option.some.inj edge) (ofInt_ne_edge (by omega) s)
  · rw [(isNumeric_of_edge edge).1] at other
    cases other

theorem level_of_plain {vs : List Value} (h : ∀ v ∈ vs, v.Plain) : Level vs := by
  rintro a ha b - c - ⟨-, ⟨p, q, decimal, -⟩, s, edges⟩
  have none := (h a ha).toDecimal?_of_edge (edges a (by simp))
  cases decimal.symm.trans none

end Value

namespace Entry

/-- What comes back of an entry that has been sent as JSON. -/
def reread (e : Entry) : Entry := ⟨e.key, e.value.reread⟩

theorem descend_reread (v : Value) (p : List String) :
    descend v.reread p = (descend v p).map Value.reread := by
  induction p generalizing v with
  | nil => rfl
  | cons name p ih =>
    rw [descend, descend, Value.field?_reread]
    cases v.field? name with
    | none => rfl
    | some w => exact ih w

theorem extract_reread (e : Entry) (p : AttributePath) :
    e.reread.extract p = (e.extract p).map Value.reread := by
  unfold extract
  split
  · split <;> rfl
  · exact descend_reread e.value _
  · exact descend_reread e.value _

theorem plain_descend {v w : Value} (h : v.Plain) {p : List String} (found : descend v p = some w) :
    w.Plain := by
  induction p generalizing v with
  | nil =>
    obtain rfl := Option.some.inj found
    exact h
  | cons name p ih =>
    rw [descend, Option.bind_eq_some_iff] at found
    obtain ⟨u, hu, found⟩ := found
    exact ih (h.field? hu) found

theorem plain_extract {e : Entry} (h : e.value.Plain) {p : AttributePath} {v : Value}
    (found : e.extract p = some v) : v.Plain := by
  unfold extract at found
  split at found
  · split at found
    · obtain rfl := Option.some.inj found
      exact ⟨.text e.key, trivial, rfl⟩
    · cases found
  · exact plain_descend h found
  · exact plain_descend h found

end Entry

end DataGrid
