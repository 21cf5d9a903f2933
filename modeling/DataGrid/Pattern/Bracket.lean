import DataGrid.Pattern.Escape

/-!
# Bracketed classes of regular expressions

Reads a class between brackets: characters, ranges, escapes, named ASCII classes and classes
inside it, and the operations between these. With the set comes how deep its parts are nested.
-/

namespace DataGrid.Pattern

/-- How deep the parts of a regular expression may be nested. -/
def nestLimit : Nat := 250

inductive SetOp where
  | inter
  | diff
  | symmDiff

def SetOp.apply (f : Flags) (op : SetOp) (a b : CharSet) : CharSet :=
  let a := f.fold a
  let b := f.fold b
  match op with
  | .inter => a.inter b
  | .diff => a.diff b
  | .symmDiff => a.symmDiff b

/-- A set with the depth of its parts. -/
structure NestedSet where
  set : CharSet
  depth : Nat

/-- Members of a class that stand side by side. -/
structure Members where
  set : CharSet
  count : Nat
  depth : Nat

namespace Members

def none : Members := ⟨.empty, 0, 0⟩

def add (m : Members) (s : NestedSet) : Members :=
  ⟨m.set.union s.set, m.count + 1, max m.depth s.depth⟩

/-- Two or more members are one level deeper than a single one. -/
def toNestedSet (m : Members) : NestedSet :=
  ⟨m.set, if 2 ≤ m.count then m.depth + 1 else m.depth⟩

end Members

/-- The set read so far, with the operation that waits for its right side. -/
def applyPending (f : Flags) (pending : Option (SetOp × NestedSet)) (m : Members) : NestedSet :=
  let right := m.toNestedSet
  match pending with
  | none => right
  | some (op, left) => ⟨op.apply f left.set right.set, max left.depth right.depth + 1⟩

/-- A class such as `:alpha:]` after its opening bracket. -/
def asciiClass (f : Flags) (cs : List Char) : Option (Option CharSet × List Char) := do
  let named (negated : Bool) (cs : List Char) : Option (Option CharSet × List Char) := do
    let (name, r) ← splitAt? (· == ':') cs
    let s ← asciiClass? (String.ofList name)
    match r with
    | ']' :: r => some (f.negate? negated (f.fold s), r)
    | _ => none
  match cs with
  | ':' :: '^' :: r => named true r
  | ':' :: r => named false r
  | _ => none

/-- One member of a class: a character or a set. -/
def classAtom? (f : Flags) : List Char → Option (Atom × List Char)
  | [] => none
  | '\\' :: r => do
    match ← escape? f r with
    | (.look _, _) => none
    | p => some p
  | c :: r => some (.literal c, r)

def Atom.toSet? (f : Flags) : Atom → Option CharSet
  | .literal c => if f.unicode ∨ c.toNat < 0x80 then some (.single c) else none
  | .set s => some s
  | .look _ => none

def Atom.toLiteral? (f : Flags) : Atom → Option Char
  | .literal c => if f.unicode ∨ c.toNat < 0x80 then some c else none
  | _ => none

/-- One member of a class or a range of characters. -/
def classItem? (f : Flags) (cs : List Char) : Option (CharSet × List Char) := do
  let (first, r) ← classAtom? f cs
  match f.space r with
  | [] => none
  | '-' :: r =>
    let next := f.glance r
    if next = some ']' ∨ next = some '-' then some (← first.toSet? f, '-' :: r)
    else
      let (last, r) ← classAtom? f (f.space r)
      let a ← first.toLiteral? f
      let b ← last.toLiteral? f
      if a ≤ b then some (⟨[(a.toNat, b.toNat)]⟩, r) else none
  | r => some (← first.toSet? f, r)

/-- Hyphens at the start of a class stand for themselves. -/
def leadingHyphens (f : Flags) (comment : Bool) (m : Members) :
    List Char → Members × List Char
  | [] => (m, [])
  | c :: r =>
    if comment then leadingHyphens f (c != '\n') m r
    else if f.verbose ∧ isBlank c then leadingHyphens f false m r
    else if f.verbose ∧ c = '#' then leadingHyphens f true m r
    else if c = '-' then leadingHyphens f false (m.add ⟨.single '-', 0⟩) r
    else (m, c :: r)

mutual

/-- A class after its opening bracket, inside `level` others. -/
def bracket? (f : Flags) : Nat → Nat → List Char → Option (NestedSet × List Char)
  | 0, _, _ => none
  | fuel + 1, level, cs =>
    if nestLimit < level then none
    else
      let cs := f.space cs
      let (negated, cs) := match cs with
        | '^' :: r => (true, f.space r)
        | _ => (false, cs)
      let (hyphens, cs) := leadingHyphens f false .none cs
      match hyphens.count, cs with
      | _, [] => none
      | 0, ']' :: r =>
        members? f fuel level negated none (Members.none.add ⟨.single ']', 0⟩) r
      | _, cs => members? f fuel level negated none hyphens cs

/-- The members of a class up to its closing bracket. -/
def members? (f : Flags) : Nat → Nat → Bool → Option (SetOp × NestedSet) → Members →
    List Char → Option (NestedSet × List Char)
  | 0, _, _, _, _, _ => none
  | fuel + 1, level, negated, pending, m, cs =>
    let operate (op : SetOp) (r : List Char) :=
      members? f fuel level negated (some (op, applyPending f pending m)) .none r
    match f.space cs with
    | [] => none
    | '[' :: r =>
      match asciiClass f r with
      | some (none, _) => none
      | some (some t, r) => members? f fuel level negated pending (m.add ⟨t, 0⟩) r
      | none => do
        let (t, r) ← bracket? f fuel (level + 1) r
        members? f fuel level negated pending (m.add t) r
    | ']' :: r => do
      let whole := applyPending f pending m
      let t ← f.negate? negated (f.fold whole.set)
      some (⟨t, whole.depth + 1⟩, r)
    | '&' :: '&' :: r => operate .inter r
    | '-' :: '-' :: r => operate .diff r
    | '~' :: '~' :: r => operate .symmDiff r
    | r => do
      let (t, r) ← classItem? f r
      members? f fuel level negated pending (m.add ⟨t, 0⟩) r

end

end DataGrid.Pattern
