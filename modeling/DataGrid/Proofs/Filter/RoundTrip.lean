import DataGrid.Filter.Json
import DataGrid.Proofs.Value.Document

/-!
# Filters that are written and read back

The JSON of a filter is read as the same filter, but for the literals in it, which are read as what
comes back of each of them alone. Main statement: `ofDocument_toJson`.
-/

namespace DataGrid

namespace Filter

/-! ## Literals -/

mutual

/-- The values in a filter. -/
def literals : Filter → List Value
  | .always | .like _ _ | .regex _ _ => []
  | .equal _ v | .notEqual _ v | .compare _ _ v => [v]
  | .between _ low high => [low, high]
  | .oneOf _ vs => vs
  | .and fs | .or fs => literalsOfAll fs
  | .not f => f.literals

def literalsOfAll : List Filter → List Value
  | [] => []
  | f :: r => f.literals ++ literalsOfAll r

end

mutual

/-- What comes back of a filter that has been sent as JSON. -/
def reread : Filter → Filter
  | .always => .always
  | .equal a v => .equal a v.reread
  | .notEqual a v => .notEqual a v.reread
  | .compare c a v => .compare c a v.reread
  | .between a low high => .between a low.reread high.reread
  | .oneOf a vs => .oneOf a (vs.map Value.reread)
  | .like a p => .like a p
  | .regex a p => .regex a p
  | .and fs => .and (rereadAll fs)
  | .or fs => .or (rereadAll fs)
  | .not f => .not f.reread

def rereadAll : List Filter → List Filter
  | [] => []
  | f :: r => f.reread :: rereadAll r

end

/-- The fields of every literal come in key order. -/
def InOrder (vs : List Value) : Prop := ∀ v ∈ vs, Value.InOrder v.parts

/-! ## Members -/

variable {α β : Type} {op : Operation} {vs : List Json}

theorem single?_eq_find? {fs : Fields α} (h : fs.Ascending) (k : String) :
    single? fs k = fs.find? k := by
  induction fs with
  | nil => rfl
  | cons p fs ih =>
    obtain ⟨j, v⟩ := p
    obtain ⟨least, ascending⟩ := List.pairwise_cons.1 h
    by_cases here : j = k
    · subst here
      have absent : fs.filter (·.1 == j) = [] := by
        refine List.filter_eq_nil_iff.2 fun q hq same => ?_
        exact String.lt_irrefl j ((beq_iff_eq.1 same) ▸ least q hq)
      simp [single?, Fields.find?, absent]
    · have skip : single? ((j, v) :: fs) k = single? fs k := by simp [single?, here]
      rw [skip, ih ascending, Fields.find?, if_neg here]

theorem single?_map (l : List (String × α)) (f : α → β) (k : String) :
    single? (l.map fun p => (p.1, f p.2)) k = (single? l k).map f := by
  have same : (l.map fun p => (p.1, f p.2)).filter (·.1 == k) =
      (l.filter (·.1 == k)).map fun p => (p.1, f p.2) := List.filter_map
  rw [single?, same, single?]
  generalize l.filter (·.1 == k) = found
  rcases found with _ | ⟨p, _ | ⟨q, r⟩⟩ <;> rfl

/-- The operand that a JSON value is read as. -/
def operand (j : Json) : Operand :=
  ⟨.ofJson j, fun _ => nested? (.ofJson j), fun _ => nestedList? (.ofJson j)⟩

theorem operandFields_ofFields (fs : List (String × Json)) :
    operandFields (Document.ofFields fs) = fs.map fun p => (p.1, operand p.2) := by
  induction fs with
  | nil => rfl
  | cons p fs ih => rw [Document.ofFields, operandFields, ih]; rfl

/-- The members of the object of an operation. -/
def members (op : Operation) (vs : List Json) : Fields Json :=
  .ofList (("op", .text op.name) :: op.operands.zip vs)

theorem ascending_members (op : Operation) (vs : List Json) : (members op vs).Ascending :=
  Fields.ascending_ofList _

theorem find?_members (len : vs.length = op.operands.length) {k : String} {v : Json}
    (h : (k, v) ∈ ("op", .text op.name) :: op.operands.zip vs) :
    (members op vs).find? k = some v := by
  refine Fields.find?_ofList ?_ h
  rw [List.map_cons, List.map_fst_zip (Nat.le_of_eq len.symm)]
  cases op <;> decide

theorem single?_members (len : vs.length = op.operands.length) {k : String} {v : Json}
    (h : (k, v) ∈ ("op", .text op.name) :: op.operands.zip vs) :
    single? (operandFields (Document.ofFields (members op vs))) k = some (operand v) := by
  rw [operandFields_ofFields, single?_map, single?_eq_find? (ascending_members op vs),
    find?_members len h, Option.map_some]

theorem mapM_zip {f : String → Option β} {g : α → β} : ∀ {ks : List String} {vs : List α},
    vs.length = ks.length → (∀ p ∈ ks.zip vs, f p.1 = some (g p.2)) → ks.mapM f = some (vs.map g)
  | [], [], _, _ => rfl
  | k :: ks, v :: vs, len, found => by
    obtain ⟨first, rest⟩ := List.forall_mem_cons.1 found
    rw [List.mapM_cons, first, mapM_zip (Nat.succ.inj len) rest]
    rfl

theorem ofMembers?_members (len : vs.length = op.operands.length) :
    ofMembers? op (operandFields (Document.ofFields (members op vs))) =
      ofOperands? op (vs.map operand) := by
  have found := mapM_zip (f := single? (operandFields (Document.ofFields (members op vs))))
    (g := operand) len fun p hp => single?_members len (.tail _ hp)
  rw [ofMembers?, found]
  rfl

/-! ## Operations -/

theorem ofName?_name (op : Operation) : Operation.ofName? op.name = some op := by
  cases op <;> decide

theorem nested?_tagged (len : vs.length = op.operands.length) :
    nested? (.ofJson (tagged op vs)) = ofOperands? op (vs.map operand) := by
  change nested? (.object (Document.ofFields (members op vs)) true) = _
  rw [nested?, single?_members len List.mem_cons_self]
  change (Operation.ofName? op.name).bind _ = _
  rw [ofName?_name, Option.bind_some, ofMembers?_members len]

theorem findOperation_of_absent {fs : Fields Json} (absent : ∀ p ∈ fs, p.1 ≠ "op")
    (o : Option Operation) : findOperation o (Document.ofFields fs) = .ok o := by
  induction fs with
  | nil => rfl
  | cons p fs ih =>
    obtain ⟨k, v⟩ := p
    obtain ⟨other, absent⟩ := List.forall_mem_cons.1 absent
    rw [Document.ofFields, findOperation, if_neg other, Document.check_ofJson]
    exact ih absent

theorem findOperation_of_find? {fs : Fields Json} (h : fs.Ascending) {v : Json}
    (found : fs.find? "op" = some v) (named : readOperation (.ofJson v) = .ok op) :
    findOperation none (Document.ofFields fs) = .ok (some op) := by
  induction fs with
  | nil => cases found
  | cons p fs ih =>
    obtain ⟨k, w⟩ := p
    obtain ⟨least, ascending⟩ := List.pairwise_cons.1 h
    rw [Document.ofFields, findOperation]
    by_cases here : k = "op"
    · subst here
      rw [Fields.find?, if_pos rfl] at found
      obtain rfl := Option.some.inj found
      have absent : ∀ q ∈ fs, q.1 ≠ "op" :=
        fun q hq same => String.lt_irrefl "op" (same ▸ least q hq)
      rw [if_pos rfl, named]
      exact findOperation_of_absent absent (some op)
    · rw [Fields.find?, if_neg here] at found
      rw [if_neg here, Document.check_ofJson]
      exact ih ascending found

theorem ofDocument_tagged (len : vs.length = op.operands.length) :
    ofDocument (.ofJson (tagged op vs)) =
      Document.require (ofOperands? op (vs.map operand)) := by
  have named : readOperation (.ofJson (.text op.name)) = .ok op := by
    change Document.require (Operation.ofName? op.name) = _
    rw [ofName?_name]
    rfl
  have looked : findOperation none (Document.ofFields (members op vs)) = .ok (some op) :=
    findOperation_of_find? (ascending_members op vs) (find?_members len List.mem_cons_self) named
  change ofDocument (.object (Document.ofFields (members op vs)) true) = _
  rw [ofDocument, looked]
  change Document.require (ofMembers? op _) = _
  rw [ofMembers?_members len]

/-! ## Filters -/

theorem text?_operand (s : String) : (operand (.text s)).text? = some s := rfl

theorem json?_operand {v : Value} (order : Value.InOrder v.parts) :
    (operand v.toJson).json? = some v.toJson := by
  change (Document.ofJson v.toJson).toJson.toOption = _
  rw [Value.toJson_ofJson_toJson order]
  rfl

theorem value?_operand {v : Value} (order : Value.InOrder v.parts) :
    (operand v.toJson).value? = some v.reread := by
  rw [Operand.value?, json?_operand order]
  rfl

theorem values?_operand {vs : List Value} (order : InOrder vs) :
    (operand (.array (vs.map Value.toJson))).values? = some (vs.map Value.reread) := by
  have read := json?_operand (v := .list vs)
    ((Value.inOrder_list vs).2 (Value.inOrder_partsOfItems order))
  rw [Value.toJson, Value.toJsonItems_eq_map] at read
  rw [Operand.values?, read]
  simp [Value.reread]

mutual

/-- The operation of a filter and its operands, from which it is read. -/
theorem exists_operands : ∀ f : Filter, InOrder f.literals → ∃ op vs,
    f.toJson = tagged op vs ∧ vs.length = op.operands.length ∧
      ofOperands? op (vs.map operand) = some f.reread
  | .always, _ => ⟨.always, [], rfl, rfl, rfl⟩
  | .equal a v, order => by
    have value := value?_operand (order v (by simp [literals]))
    exact ⟨.equal, [.text a, v.toJson], rfl, rfl,
      by simp [ofOperands?, text?_operand, value, reread]⟩
  | .notEqual a v, order => by
    have value := value?_operand (order v (by simp [literals]))
    exact ⟨.notEqual, [.text a, v.toJson], rfl, rfl,
      by simp [ofOperands?, text?_operand, value, reread]⟩
  | .compare c a v, order => by
    have value := value?_operand (order v (by simp [literals]))
    refine ⟨.ofComparison c, [.text a, v.toJson], rfl, by cases c <;> rfl, ?_⟩
    cases c <;> simp [ofOperands?, Operation.ofComparison, text?_operand, value, reread]
  | .between a low high, order => by
    have lower := value?_operand (order low (by simp [literals]))
    have upper := value?_operand (order high (by simp [literals]))
    exact ⟨.between, [.text a, low.toJson, high.toJson], rfl, rfl,
      by simp [ofOperands?, text?_operand, lower, upper, reread]⟩
  | .oneOf a vs, order => by
    have values : (operand (.array (vs.map Value.toJson))).values? = some (vs.map Value.reread) :=
      values?_operand order
    exact ⟨.oneOf, [.text a, .array (vs.map Value.toJson)], rfl, rfl,
      by simp [ofOperands?, text?_operand, values, reread]⟩
  | .like a p, _ => ⟨.like, [.text a, .text p], rfl, rfl, rfl⟩
  | .regex a p, _ => ⟨.regex, [.text a, .text p], rfl, rfl, rfl⟩
  | .and fs, order => by
    have filters : (operand (.array (toJsonAll fs))).filters () = some (rereadAll fs) :=
      nestedAll?_toJsonAll fs order
    exact ⟨.and, [.array (toJsonAll fs)], rfl, rfl, by simp [ofOperands?, filters, reread]⟩
  | .or fs, order => by
    have filters : (operand (.array (toJsonAll fs))).filters () = some (rereadAll fs) :=
      nestedAll?_toJsonAll fs order
    exact ⟨.or, [.array (toJsonAll fs)], rfl, rfl, by simp [ofOperands?, filters, reread]⟩
  | .not f, order => by
    obtain ⟨op, vs, shape, len, read⟩ := exists_operands f order
    have filter : (operand f.toJson).filter () = some f.reread := by
      rw [shape]
      exact (nested?_tagged len).trans read
    exact ⟨.not, [f.toJson], rfl, rfl, by simp [ofOperands?, filter, reread]⟩

theorem nestedAll?_toJsonAll : ∀ fs : List Filter, InOrder (literalsOfAll fs) →
    nestedAll? (Document.ofItems (toJsonAll fs)) = some (rereadAll fs)
  | [], _ => rfl
  | f :: r, order => by
    obtain ⟨first, rest⟩ := List.forall_mem_append.1 order
    obtain ⟨op, vs, shape, len, read⟩ := exists_operands f first
    rw [toJsonAll, Document.ofItems, nestedAll?, shape, nested?_tagged len, read]
    simp [nestedAll?_toJsonAll r rest, rereadAll]

end

/-- A filter that is written as JSON can be read, and is the same but for its literals. -/
theorem ofDocument_toJson (f : Filter) (order : InOrder f.literals) :
    ofDocument (.ofJson f.toJson) = .ok f.reread := by
  obtain ⟨op, vs, shape, len, read⟩ := exists_operands f order
  rw [shape, ofDocument_tagged len, read]
  rfl

end Filter

end DataGrid
