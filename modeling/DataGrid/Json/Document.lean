import DataGrid.Json.Token

/-!
# JSON documents

A document is the tree of a JSON text in its own order, with repeated keys kept, up to the
place where the text stops being JSON: from there on the tree is `broken` or its list is not
closed. Some defects matter only to a reader who wants the content, so they are leaves too: a
number out of range, a text with half a surrogate pair, and nesting beyond 127 levels.
-/

namespace DataGrid

open Json (Token)

inductive Document where
  | null
  | bool (b : Bool)
  | int (n : Int)
  | float (x : Binary64)
  | outOfRange
  | text (content : Option String)
  | array (items : List Document) (closed : Bool)
  | object (fields : List (Option String × Document)) (closed : Bool)
  | tooDeep (inner : Document)
  | broken

namespace Document

abbrev Rest (ts : List Token) := { r : List Token // r.length ≤ ts.length }

/-- The levels of nesting that a reader follows. -/
def depthLimit : Nat := 127

def limited (depth : Nat) (d : Document) : Document := if depthLimit < depth then .tooDeep d else d

mutual

/-- The value at the head of the tokens, inside `depth` containers. -/
def value (depth : Nat) (ts : List Token) : Document × Rest ts :=
  match ts with
  | .null :: r => (.null, ⟨r, Nat.le_succ _⟩)
  | .bool b :: r => (.bool b, ⟨r, Nat.le_succ _⟩)
  | .number (some (.int n)) :: r => (.int n, ⟨r, Nat.le_succ _⟩)
  | .number (some (.float x)) :: r => (.float x, ⟨r, Nat.le_succ _⟩)
  | .number _ :: r => (.outOfRange, ⟨r, Nat.le_succ _⟩)
  | .text s :: r => (.text s, ⟨r, Nat.le_succ _⟩)
  | .openBracket :: .closeBracket :: r =>
    (limited (depth + 1) (.array [] true), ⟨r, Nat.le_add_right _ 2⟩)
  | .openBracket :: r =>
    let (items, closed, ⟨s, h⟩) := items (depth + 1) r
    (limited (depth + 1) (.array items closed), ⟨s, Nat.le_succ_of_le h⟩)
  | .openBrace :: .closeBrace :: r =>
    (limited (depth + 1) (.object [] true), ⟨r, Nat.le_add_right _ 2⟩)
  | .openBrace :: r =>
    let (fields, closed, ⟨s, h⟩) := fields (depth + 1) r
    (limited (depth + 1) (.object fields closed), ⟨s, Nat.le_succ_of_le h⟩)
  | _ => (.broken, ⟨[], Nat.zero_le _⟩)
termination_by (ts.length, 0)

/-- The items up to the closing bracket, and whether it was found. -/
def items (depth : Nat) (ts : List Token) : List Document × Bool × Rest ts :=
  match value depth ts with
  | (v, ⟨.comma :: r, h⟩) =>
    have : r.length < ts.length := h
    let (vs, closed, ⟨s, hs⟩) := items depth r
    (v :: vs, closed, ⟨s, Nat.le_trans hs (Nat.le_of_lt this)⟩)
  | (v, ⟨.closeBracket :: r, h⟩) => ([v], true, ⟨r, Nat.le_of_succ_le h⟩)
  | (v, _) => ([v], false, ⟨[], Nat.zero_le _⟩)
termination_by (ts.length, 1)

/-- The members up to the closing brace, and whether it was found. -/
def fields (depth : Nat) (ts : List Token) : List (Option String × Document) × Bool × Rest ts :=
  match ts with
  | .text k :: .colon :: r =>
    match value depth r with
    | (v, ⟨.comma :: s, h⟩) =>
      have : s.length < r.length := h
      let (fs, closed, ⟨t, ht⟩) := fields depth s
      ((k, v) :: fs, closed,
        ⟨t, Nat.le_succ_of_le (Nat.le_succ_of_le (Nat.le_trans ht (Nat.le_of_lt this)))⟩)
    | (v, ⟨.closeBrace :: s, h⟩) =>
      ([(k, v)], true, ⟨s, Nat.le_succ_of_le (Nat.le_succ_of_le (Nat.le_of_succ_le h))⟩)
    | (v, _) => ([(k, v)], false, ⟨[], Nat.zero_le _⟩)
  | .text k :: _ => ([(k, .broken)], false, ⟨[], Nat.zero_le _⟩)
  | _ => ([], false, ⟨[], Nat.zero_le _⟩)
termination_by (ts.length, 1)

end

/-- The first value of a text, and whether nothing but blanks follows it. -/
def parsePrefix (s : String) : Document × Bool :=
  let (d, r) := value 0 (Token.lex s.toList)
  (d, r.1.isEmpty)

/-- The value of a text that holds nothing else. -/
def parse (s : String) : Document :=
  match parsePrefix s with
  | (d, true) => d
  | (_, false) => .broken

mutual

/-- The document of a value. -/
def ofJson : Json → Document
  | .null => .null
  | .bool b => .bool b
  | .int n => .int n
  | .float x => .float x
  | .text s => .text (some s)
  | .array vs => .array (ofItems vs) true
  | .object fs => .object (ofFields fs) true

def ofItems : List Json → List Document
  | [] => []
  | v :: r => ofJson v :: ofItems r

def ofFields : List (String × Json) → List (Option String × Document)
  | [] => []
  | (k, v) :: r => (some k, ofJson v) :: ofFields r

end

end Document

end DataGrid
