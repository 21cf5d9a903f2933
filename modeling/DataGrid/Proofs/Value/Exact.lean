import DataGrid.Proofs.Value.Comparison
import DataGrid.Proofs.Value.Plain

/-!
# What plain JSON keeps

A document read as a value goes out the same unless an integer in it needs all 64 bits unsigned
(`toJson_ofJson_iff`). A value sent as JSON comes back the same unless it holds a number of a kind
that JSON does not tell from others, or one that JSON has no form for (`reread_iff`).
-/

namespace DataGrid

namespace Json

mutual

/-- A document and all that is inside it. -/
def parts : Json → List Json
  | .array vs => .array vs :: partsOfItems vs
  | .object fs => .object fs :: partsOfFields fs
  | j => [j]

def partsOfItems : List Json → List Json
  | [] => []
  | v :: r => v.parts ++ partsOfItems r

def partsOfFields : List (String × Json) → List Json
  | [] => []
  | (_, v) :: r => v.parts ++ partsOfFields r

end

/-- Integers above the signed ones of 64 bits, up to the unsigned ones. -/
def UnsignedOnly (n : Int) : Prop := 2 ^ 63 - 1 < n ∧ n ≤ 2 ^ 64 - 1

/-- No integer in a list of documents is only an unsigned one. -/
def Signed (js : List Json) : Prop := ∀ n, .int n ∈ js → ¬ UnsignedOnly n

@[simp] theorem signed_nil : Signed [] := nofun

@[simp] theorem signed_append (js ks : List Json) : Signed (js ++ ks) ↔ Signed js ∧ Signed ks := by
  simp [Signed, or_imp, forall_and]

@[simp] theorem signed_int (n : Int) : Signed (parts (.int n)) ↔ ¬ UnsignedOnly n := by
  simp [Signed, parts]

@[simp] theorem signed_array (vs : List Json) :
    Signed (parts (.array vs)) ↔ Signed (partsOfItems vs) := by
  simp [Signed, parts]

@[simp] theorem signed_object (fs : List (String × Json)) :
    Signed (parts (.object fs)) ↔ Signed (partsOfFields fs) := by
  simp [Signed, parts]

end Json

namespace Value

/-! ## Documents -/

theorem toJson_ofInteger_iff {n : Int} (h : Json.IntegerRange n) :
    (ofInteger n).toJson = .int n ↔ ¬ Json.UnsignedOnly n := by
  unfold Json.IntegerRange at h
  unfold ofInteger Json.UnsignedOnly
  split
  · next fits =>
    have kept : (Int64.ofInt n).toInt = n := Int64.toInt_ofInt_of_le (by omega) (by omega)
    simp only [toJson, kept, true_iff]
    omega
  · simp only [toJson, reduceCtorEq, false_iff]
    omega

mutual

/-- A document that is stored goes out the same if every integer in it is a signed one, and only
then. -/
theorem toJson_ofJson_iff : ∀ {j : Json}, j.InRange →
    ((ofJson j).toJson = j ↔ Json.Signed j.parts)
  | .null, _ | .bool _, _ | .text _, _ => by simp [ofJson, toJson, Json.parts, Json.Signed]
  | .int n, range => by rw [ofJson, toJson_ofInteger_iff range, Json.signed_int]
  | .float x, finite => by
    have finite : x.isFinite = true := finite
    simp [ofJson, toJson, finite, Json.parts, Json.Signed]
  | .array vs, range => by
    rw [ofJson, toJson, Json.array.injEq, toJsonItems_ofJsonItems_iff range, Json.signed_array]
  | .object fs, range => by
    rw [ofJson, toJson, Json.object.injEq, toJsonFields_ofJsonFields_iff range, Json.signed_object]

theorem toJsonItems_ofJsonItems_iff : ∀ {vs : List Json}, Json.ItemsInRange vs →
    (toJsonItems (ofJsonItems vs) = vs ↔ Json.Signed (Json.partsOfItems vs))
  | [], _ => by simp [ofJsonItems, toJsonItems, Json.partsOfItems]
  | v :: r, ⟨range, rest⟩ => by
    rw [ofJsonItems, toJsonItems, Json.partsOfItems, Json.signed_append, List.cons.injEq,
      toJson_ofJson_iff range, toJsonItems_ofJsonItems_iff rest]

theorem toJsonFields_ofJsonFields_iff : ∀ {fs : List (String × Json)}, Json.FieldsInRange fs →
    (toJsonFields (ofJsonFields fs) = fs ↔ Json.Signed (Json.partsOfFields fs))
  | [], _ => by simp [ofJsonFields, toJsonFields, Json.partsOfFields]
  | (k, v) :: r, ⟨range, rest⟩ => by
    rw [ofJsonFields, toJsonFields, Json.partsOfFields, Json.signed_append, List.cons.injEq,
      Prod.mk.injEq, toJson_ofJson_iff range, toJsonFields_ofJsonFields_iff rest]
    simp

end

/-! ## Values -/

mutual

/-- A value and all that is inside it. -/
def parts : Value → List Value
  | .list vs => .list vs :: partsOfItems vs
  | .object fs => .object fs :: partsOfFields fs
  | v => [v]

def partsOfItems : List Value → List Value
  | [] => []
  | v :: r => v.parts ++ partsOfItems r

def partsOfFields : List (String × Value) → List Value
  | [] => []
  | (_, v) :: r => v.parts ++ partsOfFields r

end

/-- Whether JSON has a form for the value that stands for no other one. Of a list or an object only
the kind counts. -/
def isKept : Value → Bool
  | .int _ | .bigInteger _ | .bigDecimal _ => false
  | .double x => x.isFinite
  | _ => true

/-- Everything in a list of values is kept by JSON. -/
def Kept (vs : List Value) : Prop := ∀ v ∈ vs, v.isKept = true

instance (vs : List Value) : Decidable (Kept vs) := inferInstanceAs (Decidable (∀ v ∈ vs, _))

@[simp] theorem kept_nil : Kept [] := nofun

@[simp] theorem kept_append (vs us : List Value) : Kept (vs ++ us) ↔ Kept vs ∧ Kept us := by
  simp [Kept, or_imp, forall_and]

@[simp] theorem kept_list (vs : List Value) : Kept (parts (.list vs)) ↔ Kept (partsOfItems vs) := by
  simp [Kept, parts, isKept]

@[simp] theorem kept_object (fs : List (String × Value)) :
    Kept (parts (.object fs)) ↔ Kept (partsOfFields fs) := by
  simp [Kept, parts, isKept]

theorem reread_of_finite {x : Binary64} (h : x.isFinite = true) :
    (double x).reread = double x := by
  rw [reread, toJson, if_pos h, ofJson]

theorem reread_of_not_finite {x : Binary64} (h : x.isFinite = false) :
    (double x).reread = .null := by
  simp [reread, toJson, h, ofJson]

mutual

theorem reread_of_kept : ∀ {v : Value}, Kept v.parts → v.reread = v
  | .null, _ | .bool _, _ | .text _, _ => rfl
  | .long n, _ => reread_long n
  | .double x, kept => by
    have finite : x.isFinite = true := by simpa [Kept, parts, isKept] using kept
    exact reread_of_finite finite
  | .int _, kept | .bigInteger _, kept | .bigDecimal _, kept => by
    simp [Kept, parts, isKept] at kept
  | .list vs, kept => congrArg list (rereadItems_of_kept ((kept_list vs).1 kept))
  | .object fs, kept => congrArg object (rereadFields_of_kept ((kept_object fs).1 kept))

theorem rereadItems_of_kept : ∀ {vs : List Value}, Kept (partsOfItems vs) →
    ofJsonItems (toJsonItems vs) = vs
  | [], _ => rfl
  | v :: r, kept => by
    obtain ⟨first, rest⟩ := (kept_append v.parts (partsOfItems r)).1 kept
    have same : ofJson v.toJson = v := reread_of_kept first
    rw [toJsonItems, ofJsonItems, same, rereadItems_of_kept rest]

theorem rereadFields_of_kept : ∀ {fs : List (String × Value)}, Kept (partsOfFields fs) →
    ofJsonFields (toJsonFields fs) = fs
  | [], _ => rfl
  | (k, v) :: r, kept => by
    obtain ⟨first, rest⟩ := (kept_append v.parts (partsOfFields r)).1 kept
    have same : ofJson v.toJson = v := reread_of_kept first
    rw [toJsonFields, ofJsonFields, same, rereadFields_of_kept rest]

end

theorem not_beq_ofInteger_int (m : Int) (n : Int32) : (ofInteger m).beq (int n) = false := by
  unfold ofInteger
  split <;> rfl

mutual

theorem kept_of_reread_beq : ∀ {v : Value}, v.reread.beq v = true → Kept v.parts
  | .null, _ | .bool _, _ | .text _, _ | .long _, _ => by simp [Kept, parts, isKept]
  | .double x, same => by
    cases finite : x.isFinite with
    | true => simp [Kept, parts, isKept, finite]
    | false =>
      rw [reread_of_not_finite finite] at same
      cases same
  | .int n, same => by
    rw [reread, toJson, ofJson, not_beq_ofInteger_int] at same
    cases same
  | .bigInteger _, same | .bigDecimal _, same => by cases same
  | .list _, same => (kept_list _).2 (keptItems_of_reread_beq same)
  | .object _, same => (kept_object _).2 (keptFields_of_reread_beq same)

theorem keptItems_of_reread_beq : ∀ {vs : List Value},
    beqItems (ofJsonItems (toJsonItems vs)) vs = true → Kept (partsOfItems vs)
  | [], _ => kept_nil
  | v :: r, same => by
    obtain ⟨first, rest⟩ := Bool.and_eq_true_iff.1 same
    exact (kept_append _ _).2 ⟨kept_of_reread_beq first, keptItems_of_reread_beq rest⟩

theorem keptFields_of_reread_beq : ∀ {fs : List (String × Value)},
    beqFields (ofJsonFields (toJsonFields fs)) fs = true → Kept (partsOfFields fs)
  | [], _ => kept_nil
  | (k, v) :: r, same => by
    rw [toJsonFields, ofJsonFields, beqFields, Bool.and_eq_true, Bool.and_eq_true] at same
    obtain ⟨⟨-, first⟩, rest⟩ := same
    exact (kept_append _ _).2 ⟨kept_of_reread_beq first, keptFields_of_reread_beq rest⟩

end

/-- A value that is sent comes back as an equal one if JSON keeps everything in it, and only then;
it is the same one then. -/
theorem reread_iff (v : Value) :
    ((v.reread == v) = true ↔ Kept v.parts) ∧ (v.reread = v ↔ Kept v.parts) := by
  refine ⟨⟨kept_of_reread_beq, fun kept => ?_⟩, fun same => ?_, reread_of_kept⟩
  · rw [reread_of_kept kept]
    exact beq_refl v
  · exact kept_of_reread_beq (same.symm ▸ beq_refl v)

end Value

end DataGrid
