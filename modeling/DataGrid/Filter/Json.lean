import DataGrid.Filter.Basic
import DataGrid.Json.Decode
import DataGrid.Value.Plain

/-!
# Filters as JSON

A filter is an object whose member `op` names the operation, with the operands beside it, or
an array of the operation and its operands in order. Literals are plain JSON. Inside another
filter the operation may also be given by its number.
-/

namespace DataGrid.Filter

inductive Operation where
  | always
  | equal
  | notEqual
  | greater
  | greaterEqual
  | less
  | lessEqual
  | between
  | oneOf
  | like
  | regex
  | and
  | or
  | not
deriving DecidableEq

namespace Operation

/-- The operations in the order of their numbers. -/
def all : List Operation :=
  [.always, .equal, .notEqual, .greater, .greaterEqual, .less, .lessEqual, .between, .oneOf,
    .like, .regex, .and, .or, .not]

def name : Operation → String
  | .always => "true"
  | .equal => "equal"
  | .notEqual => "not_equal"
  | .greater => "greater_than"
  | .greaterEqual => "greater_equal"
  | .less => "less_than"
  | .lessEqual => "less_equal"
  | .between => "between"
  | .oneOf => "in"
  | .like => "like"
  | .regex => "regex"
  | .and => "and"
  | .or => "or"
  | .not => "not"

def ofName? (s : String) : Option Operation := all.find? (·.name == s)

def ofComparison : Comparison → Operation
  | .greater => .greater
  | .greaterEqual => .greaterEqual
  | .less => .less
  | .lessEqual => .lessEqual

/-- The names of the operands. -/
def operands : Operation → List String
  | .always => []
  | .equal | .notEqual | .greater | .greaterEqual | .less | .lessEqual => ["attribute", "value"]
  | .between => ["attribute", "from", "to"]
  | .oneOf => ["attribute", "values"]
  | .like | .regex => ["attribute", "pattern"]
  | .and | .or => ["filters"]
  | .not => ["filter"]

end Operation

/-- The JSON object of an operation with its operands in order. -/
def tagged (op : Operation) (operands : List Json) : Json :=
  .object (Fields.ofList (("op", .text op.name) :: op.operands.zip operands))

mutual

def toJson : Filter → Json
  | .always => tagged .always []
  | .equal a v => tagged .equal [.text a, v.toJson]
  | .notEqual a v => tagged .notEqual [.text a, v.toJson]
  | .compare c a v => tagged (.ofComparison c) [.text a, v.toJson]
  | .between a low high => tagged .between [.text a, low.toJson, high.toJson]
  | .oneOf a vs => tagged .oneOf [.text a, .array (vs.map Value.toJson)]
  | .like a p => tagged .like [.text a, .text p]
  | .regex a p => tagged .regex [.text a, .text p]
  | .and fs => tagged .and [.array (toJsonAll fs)]
  | .or fs => tagged .or [.array (toJsonAll fs)]
  | .not f => tagged .not [f.toJson]

def toJsonAll : List Filter → List Json
  | [] => []
  | f :: r => f.toJson :: toJsonAll r

end

/-- An operand, and what it is when read as a filter or as a list of filters. -/
structure Operand where
  document : Document
  filter : Unit → Option Filter
  filters : Unit → Option (List Filter)

namespace Operand

def text? (o : Operand) : Option String := o.document.toText.toOption

def json? (o : Operand) : Option Json := o.document.toJson.toOption

def value? (o : Operand) : Option Value := o.json?.map Value.ofJson

def values? (o : Operand) : Option (List Value) :=
  match o.json? with
  | some (.array vs) => some (vs.map Value.ofJson)
  | _ => none

end Operand

/-- The filter of an operation with its operands in order. -/
def ofOperands? : Operation → List Operand → Option Filter
  | .always, [] => some .always
  | .equal, [a, v] => return .equal (← a.text?) (← v.value?)
  | .notEqual, [a, v] => return .notEqual (← a.text?) (← v.value?)
  | .greater, [a, v] => return .compare .greater (← a.text?) (← v.value?)
  | .greaterEqual, [a, v] => return .compare .greaterEqual (← a.text?) (← v.value?)
  | .less, [a, v] => return .compare .less (← a.text?) (← v.value?)
  | .lessEqual, [a, v] => return .compare .lessEqual (← a.text?) (← v.value?)
  | .between, [a, low, high] => return .between (← a.text?) (← low.value?) (← high.value?)
  | .oneOf, [a, vs] => return .oneOf (← a.text?) (← vs.values?)
  | .like, [a, p] => return .like (← a.text?) (← p.text?)
  | .regex, [a, p] => return .regex (← a.text?) (← p.text?)
  | .and, [fs] => return .and (← fs.filters ())
  | .or, [fs] => return .or (← fs.filters ())
  | .not, [f] => return .not (← f.filter ())
  | _, _ => none

/-- The only member of a given name. -/
def single? (members : List (String × α)) (name : String) : Option α :=
  match members.filter (·.1 == name) with
  | [(_, v)] => some v
  | _ => none

/-- The filter of an object whose members have been read as operands. -/
def ofMembers? (op : Operation) (members : List (String × Operand)) : Option Filter := do
  ofOperands? op (← op.operands.mapM (single? members))

/-- The operation that a nested filter names, or numbers. -/
def operation? : Document → Option Operation
  | .text (some s) => Operation.ofName? s
  | .int n => if 0 ≤ n then Operation.all[n.toNat]? else none
  | _ => none

mutual

/-- The filter of a sound document inside another filter. -/
def nested? : Document → Option Filter
  | .object fields _ =>
    let members := operandFields fields
    match single? members "op" with
    | none => none
    | some o => (operation? o.document).bind (ofMembers? · members)
  | .array (t :: items) _ =>
    let operands := operandItems items
    (operation? t).bind (ofOperands? · operands)
  | _ => none

def nestedAll? : List Document → Option (List Filter)
  | [] => some []
  | d :: r =>
    match nested? d with
    | none => none
    | some f => (nestedAll? r).map (f :: ·)

/-- The filters of a sound array. -/
def nestedList? : Document → Option (List Filter)
  | .array items _ => nestedAll? items
  | _ => none

def operandItems : List Document → List Operand
  | [] => []
  | d :: r => ⟨d, fun _ => nested? d, fun _ => nestedList? d⟩ :: operandItems r

def operandFields : List (Option String × Document) → List (String × Operand)
  | [] => []
  | (k, d) :: r => (k.getD "", ⟨d, fun _ => nested? d, fun _ => nestedList? d⟩) :: operandFields r

end

/-- The operation a filter names. -/
def readOperation (d : Document) : Decoded Operation := do
  Document.require (Operation.ofName? (← d.toText))

/-- Looks through the members of a filter for its operation; the other ones must be sound. -/
def findOperation (op : Option Operation) :
    List (Option String × Document) → Decoded (Option Operation)
  | [] => pure op
  | (none, _) :: _ => throw .malformed
  | (some k, d) :: r => do
    if k = "op" then
      if op.isSome then throw .mismatch
      findOperation (some (← readOperation d)) r
    else
      d.check
      findOperation op r

def ofDocument : Decoder Filter
  | .object fields closed => do
    let op ← findOperation none fields
    Document.checkClosed closed
    Document.require (ofMembers? (← Document.require op) (operandFields fields))
  | .array (t :: items) closed => do
    let op ← readOperation t
    let _ ← items.mapM Document.check
    Document.checkClosed closed
    Document.require (ofOperands? op (operandItems items))
  | .array [] closed => do
    Document.checkClosed closed
    throw .mismatch
  | d => throw d.refuseContainer

end DataGrid.Filter
