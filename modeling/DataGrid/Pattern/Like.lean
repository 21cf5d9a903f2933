import DataGrid.Pattern.Size
import DataGrid.Pattern.Build

/-!
# Wildcard patterns

In a wildcard pattern `%` stands for any run of characters and `_` for exactly one; every other
character stands for itself. The pattern has to match the whole text. It can also be written as
a regular expression, which is how it is reported.
-/

namespace DataGrid.Pattern

def ofWildcard : Char → Pattern
  | '%' => .repeated (.chars CharSet.all) 0 none true
  | '_' => .chars CharSet.all
  | c => .text [c]

/-- The pattern that a wildcard text stands for. -/
def like (pattern : String) : Pattern :=
  concat (.look .textStart :: pattern.toList.map ofWildcard ++ [.look .textEnd])

/-- Characters with a meaning of their own in a regular expression. -/
def isSpecial (c : Char) : Bool :=
  ['\\', '.', '+', '*', '?', '(', ')', '|', '[', ']', '\x7b', '\x7d', '^', '$', '#', '&', '-',
    '~'].contains c

def wildcardText : Char → List Char
  | '%' => ['.', '*']
  | '_' => ['.']
  | c => if isSpecial c then ['\\', c] else [c]

/-- The regular expression for a wildcard text. -/
def likeText (pattern : String) : String :=
  "(?s)^" ++ String.ofList (pattern.toList.flatMap wildcardText) ++ "$"

end DataGrid.Pattern
