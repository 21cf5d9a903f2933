import DataGrid.Number.Decimal

/-!
# Decimal text

`render` writes every place of the scale. `parse?` reads a sign, digits and one point, with
underscores between digits. Past the point a number that has all its 28 places or fills
its 96 bits is rounded half up on the next digit, and digits after that one count no more. An
exponent may follow; places that it pushes beyond the last one are rounded half up as well.
-/

namespace DataGrid.Decimal

def render (x : Decimal) : String :=
  let digits := (toString x.coefficient).toList
  let digits := List.replicate (x.scale + 1 - digits.length) '0' ++ digits
  let whole := digits.take (digits.length - x.scale)
  let places := digits.drop (digits.length - x.scale)
  (if x.negative then "-" else "") ++ String.ofList whole ++
    (if places.isEmpty then "" else "." ++ String.ofList places)

def digit? (c : Char) : Option Nat :=
  if '0' ≤ c ∧ c ≤ '9' then some (c.toNat - '0'.toNat) else none

/-- The number read so far, when no place is left for the next character `c`, which rounds it,
and for `r` after that. -/
def roundOff? (neg : Bool) (n scale : Nat) (c : Char) (r : List Char) : Option Decimal := do
  let up ← if c = '_' ∨ c = '.' then some false else (digit? c).map (5 ≤ ·)
  if r.any fun d => d != '_' && (digit? d).isNone then none
  else if !up then ofParts? neg n scale
  else if n + 1 < 2 ^ 96 then ofParts? neg (n + 1) scale
  else if scale = 0 then none
  else ofParts? neg ((n + 5) / 10) (scale - 1)

/-- Reads digits into `n`; `point` is set once the point has passed, `any` once a digit has. -/
def parseDigits? (neg : Bool) (n scale : Nat) (point any : Bool) : List Char → Option Decimal
  | [] => if any then ofParts? neg n scale else none
  | c :: r =>
    match digit? c with
    | some d =>
      if point ∧ scale = 28 then roundOff? neg n scale c r
      else if n * 10 + d < 2 ^ 96 then
        parseDigits? neg (n * 10 + d) (if point then scale + 1 else scale) point true r
      else if point then roundOff? neg n scale c r
      else none
    | none =>
      if point ∧ scale = 28 then roundOff? neg n scale c r
      else if c = '.' ∧ !point then parseDigits? neg n scale true any r
      else if c = '_' ∧ any then parseDigits? neg n scale point any r
      else none

def parse? (s : String) : Option Decimal :=
  match s.toList with
  | '-' :: r => parseDigits? true 0 0 false false r
  | '+' :: r => parseDigits? false 0 0 false false r
  | cs => parseDigits? false 0 0 false false cs

/-- Reads a natural number with an optional plus sign, below 2^32. -/
def exponent? (cs : List Char) : Option Nat :=
  let ds := match cs with | '+' :: r => r | _ => cs
  if ds.isEmpty then none
  else do
    let n ← ds.foldlM (fun n c => (digit? c).map (n * 10 + ·)) 0
    if n < 2 ^ 32 then some n else none

/-- The number without its last `k` digits, rounded half up. -/
def dropPlaces (n k : Nat) : Nat := (n + 10 ^ k / 2) / 10 ^ k

/-- Reads `BASEeEXPONENT`, with an exponent of at most 28 either way. -/
def parseScientific? (s : String) : Option Decimal := do
  let cs := s.toList
  let isMark (c : Char) := c == 'e' || c == 'E'
  let base := cs.takeWhile (!isMark ·)
  let x ← parse? (String.ofList base)
  match cs.dropWhile (!isMark ·) with
  | [] => none
  | _ :: '-' :: r =>
    let k ← exponent? r
    if 28 < k then none
    else if x.scale + k ≤ 28 then make? x.negative x.coefficient (x.scale + k)
    else make? x.negative (dropPlaces x.coefficient (x.scale + k - 28)) 28
  | _ :: r =>
    let k ← exponent? r
    if 28 < k then none
    else if k ≤ x.scale then make? x.negative x.coefficient (x.scale - k)
    else ofParts? x.negative (x.coefficient * 10 ^ (k - x.scale)) 0

/-- Either form, the plain one first. -/
def parseAny? (s : String) : Option Decimal := parse? s <|> parseScientific? s

end DataGrid.Decimal
