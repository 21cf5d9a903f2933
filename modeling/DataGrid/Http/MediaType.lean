/-!
# Media types

The type of a body: two names with a slash between them, the second perhaps ending in a suffix
after a plus sign, and then parameters. `isJson` tells the types that announce JSON.
-/

namespace DataGrid

structure MediaType where
  main : String
  sub : String
  suffix : Option String

namespace MediaType

/-- The characters of names and of values without quotes. -/
def isTokenChar (c : Char) : Bool :=
  c.isAlphanum || "!#$%&'*+-.^_|~".toList.contains c || c.toNat == 0x60

/-- A token that is not empty, and the rest. -/
def token? (cs : List Char) : Option (List Char × List Char) :=
  match cs.takeWhile isTokenChar with
  | [] => none
  | t => some (t, cs.drop t.length)

/-- What follows a quoted value, which is not empty and holds no control characters. -/
def skipQuoted? (first : Bool) : List Char → Option (List Char)
  | [] => none
  | c :: r =>
    if c = '"' ∧ !first then some r
    else if c.toNat < 0x20 ∨ 0x7F ≤ c.toNat then none
    else skipQuoted? false r

/-- What follows one parameter and its semicolon; only the last value may be empty. -/
def skipParameter? (cs : List Char) : Option (List Char) := do
  let (_, r) ← token? cs
  match r with
  | '=' :: '"' :: r =>
    match (← skipQuoted? true r).dropWhile (· = ' ') with
    | [] => some []
    | ';' :: r => some r
    | _ => none
  | '=' :: r =>
    match r.dropWhile isTokenChar with
    | [] => some []
    | ';' :: s => if r = ';' :: s then none else some s
    | _ => none
  | _ => none

/-- Whether parameters are well formed; blanks may stand before each. -/
def parametersOk : Nat → List Char → Bool
  | 0, _ => false
  | n + 1, cs =>
    match cs.dropWhile (· = ' ') with
    | [] => true
    | cs =>
      match skipParameter? cs with
      | some r => parametersOk n r
      | none => false

/-- Splits a name before its last plus sign, unless that comes first. -/
def splitSuffix (cs : List Char) : List Char × Option (List Char) :=
  let suffix := (cs.reverse.takeWhile (· ≠ '+')).reverse
  let name := cs.take (cs.length - suffix.length - 1)
  if '+' ∈ cs ∧ name ≠ [] then (name, some suffix) else (cs, none)

def parse? (s : String) : Option MediaType := do
  let (main, r) ← token? s.toList
  match r with
  | '/' :: r => do
    let (name, r) ← token? r
    let ok := match r with
      | [] => true
      | ';' :: r => parametersOk (r.length + 1) r
      | _ => false
    let (sub, suffix) := splitSuffix name
    let lower (cs : List Char) := String.ofList (cs.map Char.toLower)
    if ok then some ⟨lower main, lower sub, suffix.map lower⟩ else none
  | _ => none

/-- Whether a body of this type is JSON. -/
def isJson (m : MediaType) : Bool :=
  m.main = "application" && (m.sub = "json" || m.suffix = some "json")

end MediaType

end DataGrid
