import DataGrid.Number.Binary64

/-!
# The shortest decimal text of a double

The digits are the fewest that read back as the same double, and of those the nearest.
A `FloatStyle` says how digits and exponent become text: which numbers are written
positionally, whether a whole number shows a fraction, and how an exponent is signed.
-/

namespace DataGrid

/-- The positive decimal number `digits * 10 ^ exponent`. -/
structure Scientific where
  digits : Nat
  exponent : Int

namespace Binary64

/-- The largest `k` with `10 ^ k ≤ n / d`, for positive `n` and `d`. -/
def decimalExponent (n d : Nat) : Int :=
  let guess : Int := (((Nat.log2 n : Int) - Nat.log2 d - 1) * 30103).fdiv 100000
  let reaches (k : Int) : Bool := d * 10 ^ k.toNat ≤ n * 10 ^ (-k).toNat
  if reaches (guess + 1) then (if reaches (guess + 2) then guess + 2 else guess + 1) else guess

/-- Of the two multiples of `10 ^ e` around the value, the one that reads back as `x`, if any;
of two such, the nearer, and the even one when both are as near. -/
def gridDigits? (x : Binary64) (e : Int) : Option Nat :=
  let m := x.magnitude
  let u := unitsOf m
  let low := u + unitsOf (m - 1)
  let high := u + unitsOf (m + 1)
  let unit := 2 * one * 10 ^ e.toNat
  let scale := 10 ^ (-e).toNat
  let readsBack (c : Nat) : Bool :=
    if m % 2 = 0 then low * scale ≤ c * unit ∧ c * unit ≤ high * scale
    else low * scale < c * unit ∧ c * unit < high * scale
  let c := 2 * u * scale / unit
  let nearest := roundEven (2 * u * scale) unit
  let other := if nearest = c then c + 1 else c
  if readsBack nearest then some nearest
  else if readsBack other then some other
  else none

/-- The shortest decimal number that reads back as the magnitude of `x`, for finite nonzero `x`. -/
def shortest (x : Binary64) : Scientific :=
  let k := decimalExponent (unitsOf x.magnitude) one
  let found := (List.range 17).findSome? fun (n : Nat) =>
    let e := k - n
    (gridDigits? x e).map (⟨·, e⟩)
  found.getD ⟨0, 0⟩

end Binary64

/-- How the digits of a double are laid out. -/
structure FloatStyle where
  /-- The lowest exponent of a leading digit that is still written positionally. -/
  lowest : Int
  /-- The first exponent of a leading digit that is no longer written positionally. -/
  limit : Int
  /-- What follows a whole number. -/
  wholeTail : String
  /-- What stands before a positive exponent. -/
  plus : String

namespace FloatStyle

/-- Numbers of a JSON text: positional from 1e-5 to below 1e16, always with a fraction, and
exponents always signed. -/
def json : FloatStyle := ⟨-5, 16, ".0", "+"⟩

/-- Numbers inside diagnostic texts: positional from 1e-4 to below 1e16, and a positive exponent
has no sign. -/
def diagnostic : FloatStyle := ⟨-4, 16, ".0", ""⟩

/-- Every digit written out, no exponent and no fraction on a whole number. -/
def plain : FloatStyle := ⟨-400, 400, "", ""⟩

def zeros (n : Nat) : String := String.ofList (List.replicate n '0')

/-- Lays out the decimal number `0.d₁d₂… * 10 ^ point`. -/
def layout (s : FloatStyle) (digits : List Char) (point : Int) : String :=
  let k := digits.length
  let text (cs : List Char) := String.ofList cs
  if s.lowest < point ∧ point ≤ s.limit then
    if point ≤ 0 then "0." ++ zeros (-point).toNat ++ text digits
    else if (k : Int) ≤ point then text digits ++ zeros (point.toNat - k) ++ s.wholeTail
    else text (digits.take point.toNat) ++ "." ++ text (digits.drop point.toNat)
  else
    let rest := digits.drop 1
    let fraction := if rest.isEmpty then "" else "." ++ text rest
    let e := point - 1
    text (digits.take 1) ++ fraction ++ "e" ++ (if e < 0 then "" else s.plus) ++ toString e

def render (s : FloatStyle) (x : Binary64) : String :=
  if x.isNaN then "NaN"
  else
    let sign := if x.negative then "-" else ""
    if x.isInfinite then sign ++ "inf"
    else if x.magnitude = 0 then sign ++ "0" ++ s.wholeTail
    else
      let d := x.shortest
      let (n, removed) := stripZeros d.digits 17
      let cs := (toString n).toList
      sign ++ s.layout cs (cs.length + d.exponent + removed)

end FloatStyle

end DataGrid
