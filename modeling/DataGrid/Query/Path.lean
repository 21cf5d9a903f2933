import DataGrid.Error
import DataGrid.Text.Blank

/-!
# Attribute paths

A path is a list of segments, written with dots between them. Blanks around the whole text do
not count; blanks inside do.
-/

namespace DataGrid

structure AttributePath where
  segments : List String
deriving DecidableEq

namespace AttributePath

/-- The parts of a text between dots. -/
def splitDots : List Char → List (List Char)
  | [] => [[]]
  | '.' :: r => [] :: splitDots r
  | c :: r =>
    match splitDots r with
    | [] => [[c]]
    | s :: ss => (c :: s) :: ss

def parse (raw : String) : Except GridError AttributePath :=
  let trimmed := trimBlanks raw.toList
  if trimmed.isEmpty then throw (.invalidRequest .emptyPath)
  else
    let parts := splitDots trimmed
    if parts.any (·.isEmpty) then throw (.invalidRequest (.malformedPath raw))
    else return ⟨parts.map String.ofList⟩

def render (p : AttributePath) : String := ".".intercalate p.segments

end AttributePath

end DataGrid
