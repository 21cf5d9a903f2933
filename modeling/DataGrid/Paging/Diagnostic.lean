import DataGrid.Paging.Basic
import DataGrid.Text.Quoted

/-!
# Diagnostic texts of queries

How values, entries and pagings are shown in diagnostics: every constructor and every member
by name.
-/

namespace DataGrid

namespace Diagnostic

def call (name argument : String) : String := name ++ "(" ++ argument ++ ")"

def list (items : List String) : String := "[" ++ ", ".intercalate items ++ "]"

def members (fields : List (String × String)) : String :=
  ", ".intercalate (fields.map fun f => f.1 ++ ": " ++ f.2)

def record (name : String) (fields : List (String × String)) : String :=
  name ++ " \x7b " ++ members fields ++ " \x7d"

end Diagnostic

open Diagnostic

mutual

def Value.diagnostic : Value → String
  | .null => "Null"
  | .bool b => call "Bool" (if b then "true" else "false")
  | .int n => call "Int" (toString n.toInt)
  | .long n => call "Long" (toString n.toInt)
  | .double x => call "Double" (FloatStyle.diagnostic.render x)
  | .bigInteger n => call "BigInteger" (toString n)
  | .bigDecimal d => call "BigDecimal" d.render
  | .text s => call "Text" (Quoted.render s)
  | .list vs => call "List" (list (diagnosticItems vs))
  | .object fs => call "Object" ("\x7b" ++ ", ".intercalate (diagnosticFields fs) ++ "\x7d")

def diagnosticItems : List Value → List String
  | [] => []
  | v :: r => v.diagnostic :: diagnosticItems r

def diagnosticFields : List (String × Value) → List String
  | [] => []
  | (k, v) :: r => (Quoted.render k ++ ": " ++ v.diagnostic) :: diagnosticFields r

end

def Entry.diagnostic (e : Entry) : String :=
  record "QueryEntry" [("key", Quoted.render e.key), ("value", e.value.diagnostic)]

def Anchor.diagnostic (a : Anchor) : String :=
  record "Anchor" [("page", toString a.page), ("entry", a.entry.diagnostic)]

def EntryOrder.diagnostic (o : EntryOrder) : String :=
  call "EntryComparator" (Quoted.render o.description)

def Paging.diagnostic (p : Paging) : String :=
  record "PagingSpec" [
    ("page_size", toString p.size),
    ("page", toString p.page),
    ("comparator", p.order.diagnostic),
    ("anchors", list (p.anchors.map Anchor.diagnostic))]

/-- The text of a query, of which only the paging can be shown. -/
def queryDiagnostic (p : Option Paging) : String :=
  let shown := match p with
    | some p => call "Some" p.diagnostic
    | none => "None"
  record "QueryPredicate" [("paging", shown ++ ", ..")]

end DataGrid
