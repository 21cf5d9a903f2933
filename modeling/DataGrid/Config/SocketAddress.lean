import DataGrid.Number.Power
import DataGrid.Text.Hex

/-!
# Socket addresses

An address of four octets or of eight 16-bit groups, with a port. Groups are read with one run
of them left out as `::` and with the last two written as octets; `render` writes the longest
run of zero groups that way, and octets only for an embedded address.
-/

namespace DataGrid

structure Octets where
  first : Nat
  second : Nat
  third : Nat
  fourth : Nat

inductive SocketAddress where
  | v4 (address : Octets) (port : Nat)
  | v6 (groups : List Nat) (scope port : Nat)

namespace SocketAddress

def char? (c : Char) : List Char → Option (List Char)
  | d :: r => if d = c then some r else none
  | [] => none

def isDigit (base : Nat) (c : Char) : Bool := (Hex.value? c).any (· < base)

/-- A number below `bound` of at most `width` digits, if that is given. -/
def number? (base bound : Nat) (width : Option Nat) (cs : List Char) : Option (Nat × List Char) :=
  let digits := cs.takeWhile (isDigit base)
  let n := digits.foldl (fun n c => n * base + (Hex.value? c).getD 0) 0
  if digits.isEmpty || width.any (· < digits.length) || bound ≤ n then none
  else some (n, cs.drop digits.length)

/-- A number below 256 without leading zeros. -/
def octet? (cs : List Char) : Option (Nat × List Char) := do
  let (n, r) ← number? 10 256 (some 3) cs
  if cs.head? = some '0' ∧ cs.length ≠ r.length + 1 then none else some (n, r)

def octets? (cs : List Char) : Option (Octets × List Char) := do
  let (a, r) ← octet? cs
  let (b, r) ← octet? (← char? '.' r)
  let (c, r) ← octet? (← char? '.' r)
  let (d, r) ← octet? (← char? '.' r)
  return (⟨a, b, c, d⟩, r)

def port? (cs : List Char) : Option (Nat × List Char) := do
  number? 10 (2 ^ 16) none (← char? ':' cs)

/-- Up to `room` groups, each but the very first after a colon, and whether they end in octets. -/
def groups (first : Bool) : Nat → List Char → List Nat × Bool × List Char
  | 0, cs => ([], false, cs)
  | room + 1, cs =>
    let inner := if first then some cs else char? ':' cs
    match if 0 < room then inner.bind octets? else none with
    | some (o, r) => ([o.first * 256 + o.second, o.third * 256 + o.fourth], true, r)
    | none =>
      match inner.bind (number? 16 (2 ^ 16) (some 4)) with
      | none => ([], false, cs)
      | some (n, r) =>
        let (ns, embedded, r) := groups false room r
        (n :: ns, embedded, r)

/-- Eight groups, of which one run may be left out; octets end an address. -/
def address? (cs : List Char) : Option (List Nat × List Char) :=
  match groups true 8 cs with
  | (head, embedded, r) =>
    if head.length = 8 then some (head, r)
    else if embedded then none
    else do
      let r ← char? ':' (← char? ':' r)
      let (tail, _, r) := groups true (7 - head.length) r
      return (head ++ List.replicate (8 - head.length - tail.length) 0 ++ tail, r)

def readV4? (cs : List Char) : Option (SocketAddress × List Char) := do
  let (a, r) ← octets? cs
  let (p, r) ← port? r
  return (.v4 a p, r)

/-- The number of a scope after a percent sign; zero where there is none. -/
def scope (cs : List Char) : Nat × List Char :=
  ((char? '%' cs).bind (number? 10 (2 ^ 32) none)).getD (0, cs)

def readV6? (cs : List Char) : Option (SocketAddress × List Char) := do
  let (groups, r) ← address? (← char? '[' cs)
  let (s, r) := scope r
  let (p, r) ← port? (← char? ']' r)
  return (.v6 groups s p, r)

/-- Reads an address with a port that makes up the whole text. -/
def parse? (s : String) : Option SocketAddress := do
  let (a, r) ← readV4? s.toList <|> readV6? s.toList
  if r.isEmpty then some a else none

def Octets.render (a : Octets) : String :=
  ".".intercalate ([a.first, a.second, a.third, a.fourth].map toString)

def renderGroups (gs : List Nat) : String :=
  ":".intercalate (gs.map fun n => String.ofList (Nat.toDigits 16 n))

/-- The start and length of the first longest run of zeros in what follows position `i`. -/
def longestZeros (i : Nat) : List Nat → Nat × Nat
  | [] => (0, 0)
  | g :: r =>
    let here := ((g :: r).takeWhile (· = 0)).length
    let later := longestZeros (i + 1) r
    if 0 < here ∧ later.2 ≤ here then (i, here) else later

def renderAddress (groups : List Nat) : String :=
  match groups with
  | [0, 0, 0, 0, 0, 0xFFFF, a, b] =>
    "::ffff:" ++ Octets.render ⟨a / 256, a % 256, b / 256, b % 256⟩
  | _ =>
    let (start, length) := longestZeros 0 groups
    if length ≤ 1 then renderGroups groups
    else renderGroups (groups.take start) ++ "::" ++ renderGroups (groups.drop (start + length))

def render : SocketAddress → String
  | .v4 a p => Octets.render a ++ ":" ++ toString p
  | .v6 groups s p =>
    let zone := if s = 0 then "" else "%" ++ toString s
    "[" ++ renderAddress groups ++ zone ++ "]:" ++ toString p

end SocketAddress

end DataGrid
