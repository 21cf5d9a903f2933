import DataGrid.Fields
import DataGrid.Number.Shortest
import DataGrid.Text.Hex

/-!
# JSON values

A JSON value with integers kept apart from doubles. `render` writes it without blanks;
the members of an object come in key order.
-/

namespace DataGrid

inductive Json where
  | null
  | bool (b : Bool)
  | int (n : Int)
  | float (x : Binary64)
  | text (s : String)
  | array (items : List Json)
  | object (fields : List (String × Json))
deriving Inhabited

namespace Json

/-- The member `k` of an object. -/
def field? (k : String) : Json → Option Json
  | .object fs => Fields.find? fs k
  | _ => none

def asText? : Json → Option String
  | .text s => some s
  | _ => none

/-- Integers that fit 64 bits, unsigned if positive, are the ones a JSON number keeps exactly. -/
def IntegerRange (n : Int) : Prop := -2 ^ 63 ≤ n ∧ n < 2 ^ 64

/-- A character inside a quoted text. -/
def quoteChar (c : Char) : List Char :=
  match c with
  | '"' => ['\\', '"']
  | '\\' => ['\\', '\\']
  | '\n' => ['\\', 'n']
  | '\r' => ['\\', 'r']
  | '\t' => ['\\', 't']
  | '\x08' => ['\\', 'b']
  | '\x0c' => ['\\', 'f']
  | c =>
    if c.toNat < 0x20 then
      ['\\', 'u', '0', '0', Hex.digit (c.toNat / 16), Hex.digit (c.toNat % 16)]
    else [c]

def quote (s : String) : String := "\"" ++ String.ofList (s.toList.flatMap quoteChar) ++ "\""

mutual

def render : Json → String
  | .null => "null"
  | .bool b => if b then "true" else "false"
  | .int n => toString n
  | .float x => FloatStyle.json.render x
  | .text s => quote s
  | .array items => "[" ++ ",".intercalate (renderItems items) ++ "]"
  | .object fields => "\x7b" ++ ",".intercalate (renderFields fields) ++ "\x7d"

def renderItems : List Json → List String
  | [] => []
  | v :: r => v.render :: renderItems r

def renderFields : List (String × Json) → List String
  | [] => []
  | (k, v) :: r => (quote k ++ ":" ++ v.render) :: renderFields r

end

end Json

end DataGrid
