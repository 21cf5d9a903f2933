/-!
# Hashing keys

SipHash with one round a word, three at the end and a zero key, over the UTF-8 bytes of a
text and a closing byte 255 that no text contains.
-/

namespace DataGrid.KeyHash

structure State where
  v0 : UInt64
  v1 : UInt64
  v2 : UInt64
  v3 : UInt64

def start : State :=
  ⟨0x736f6d6570736575, 0x646f72616e646f6d, 0x6c7967656e657261, 0x7465646279746573⟩

def rotate (x : UInt64) (k : UInt64) : UInt64 := (x <<< k) ||| (x >>> (64 - k))

def round (s : State) : State :=
  let v0 := s.v0 + s.v1
  let v1 := rotate s.v1 13 ^^^ v0
  let v0 := rotate v0 32
  let v2 := s.v2 + s.v3
  let v3 := rotate s.v3 16 ^^^ v2
  let v0 := v0 + v3
  let v3 := rotate v3 21 ^^^ v0
  let v2 := v2 + v1
  let v1 := rotate v1 17 ^^^ v2
  let v2 := rotate v2 32
  ⟨v0, v1, v2, v3⟩

def absorb (s : State) (word : UInt64) : State :=
  let r := round { s with v3 := s.v3 ^^^ word }
  { r with v0 := r.v0 ^^^ word }

/-- The number whose bytes these are, the lowest first. -/
def word : List UInt8 → UInt64
  | [] => 0
  | b :: r => b.toUInt64 ||| (word r <<< 8)

/-- Absorbs whole words of eight bytes; the last word holds what is left and the length. -/
def absorbAll (length : Nat) (s : State) : List UInt8 → State
  | a :: b :: c :: d :: e :: f :: g :: h :: r =>
    absorbAll length (absorb s (word [a, b, c, d, e, f, g, h])) r
  | rest => absorb s (word rest ||| (UInt64.ofNat length <<< 56))

def finish (s : State) : UInt64 :=
  let s := round (round (round { s with v2 := s.v2 ^^^ 0xff }))
  s.v0 ^^^ s.v1 ^^^ s.v2 ^^^ s.v3

def ofText (s : String) : UInt64 :=
  let bytes := s.toUTF8.toList ++ [0xff]
  finish (absorbAll bytes.length start bytes)

end DataGrid.KeyHash
