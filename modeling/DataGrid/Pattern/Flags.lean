import DataGrid.Pattern.Build
import DataGrid.Pattern.Class
import DataGrid.Text.Blank

/-!
# Flags of regular expressions

How the parts of a regular expression are to be read, which it can change on the way: whether
case counts, where lines end, and whether blanks and comments may stand between the parts.
-/

namespace DataGrid.Pattern

structure Flags where
  caseless : Bool := false
  multiline : Bool := false
  dotAll : Bool := false
  unicode : Bool := true
  crlf : Bool := false
  verbose : Bool := false
  /-- Repetitions prefer few matches, and many where they are marked. -/
  swapped : Bool := false

namespace Flags

/-- Drops blanks and comments that run to the end of a line. -/
def skipVerbose (comment : Bool) : List Char → List Char
  | [] => []
  | c :: r =>
    if comment then skipVerbose (c != '\n') r
    else if isBlank c then skipVerbose false r
    else if c = '#' then skipVerbose true r
    else c :: r

/-- Drops what does not count between two parts of a pattern. -/
def space (f : Flags) (cs : List Char) : List Char :=
  if f.verbose then skipVerbose false cs else cs

/-- The next character that is no blank; behind the mark of a comment, the first one of it. -/
def glance (f : Flags) (cs : List Char) : Option Char :=
  if !f.verbose then cs.head?
  else
    match cs.dropWhile isBlank with
    | '#' :: r => (r.dropWhile isBlank).head?
    | r => r.head?

/-- Closes a set under case where case does not count. -/
def fold (f : Flags) (s : CharSet) : CharSet :=
  if !f.caseless then s else if f.unicode then s.foldClosure else s.foldClosureAscii

/-- The complement of a set, if it holds no part of a character. -/
def negate? (f : Flags) (negated : Bool) (s : CharSet) : Option CharSet :=
  if !negated then some s else if f.unicode then some s.complement else none

/-- A character that stands for itself. -/
def literal (f : Flags) (c : Char) : Pattern :=
  if f.caseless then ofSet (f.fold (.single c)) else .text [c]

def dot? (f : Flags) : Option Pattern :=
  if !f.unicode then none
  else if f.dotAll then some (.chars .all)
  else if f.crlf then some (.chars (CharSet.complement ⟨[(0x0A, 0x0A), (0x0D, 0x0D)]⟩))
  else some (.chars (CharSet.single '\n').complement)

def lineStart (f : Flags) : Look :=
  if !f.multiline then .textStart else if f.crlf then .crlfLineStart else .lineStart

def lineEnd (f : Flags) : Look :=
  if !f.multiline then .textEnd else if f.crlf then .crlfLineEnd else .lineEnd

/-! ## Changing flags -/

def set? (f : Flags) (value : Bool) : Char → Option Flags
  | 'i' => some { f with caseless := value }
  | 'm' => some { f with multiline := value }
  | 's' => some { f with dotAll := value }
  | 'U' => some { f with swapped := value }
  | 'u' => some { f with unicode := value }
  | 'R' => some { f with crlf := value }
  | 'x' => some { f with verbose := value }
  | _ => none

/-- Reads flags up to a colon or a closing parenthesis, which is returned with whether there
were none and with the rest. -/
def read? (f : Flags) (negated dangling : Bool) (seen : List Char) :
    List Char → Option (Flags × Char × Bool × List Char)
  | [] => none
  | c :: r =>
    if c = ':' ∨ c = ')' then
      if dangling then none else some (f, c, seen.isEmpty, r)
    else if c = '-' then
      if negated then none else read? f true true seen r
    else if seen.contains c then none
    else do read? (← f.set? (!negated) c) negated false (c :: seen) r

end Flags

end DataGrid.Pattern
