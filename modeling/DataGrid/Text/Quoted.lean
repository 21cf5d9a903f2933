import DataGrid.Text.Unicode.Additions

/-!
# Quoted diagnostic texts

A text between double quotes, as it is shown in diagnostics. Quotes, backslashes and the common
control characters have short escapes; other characters that cannot be seen, and marks that
would join the character before them, are written by their code.
-/

namespace DataGrid.Quoted

def hex (n : Nat) : List Char := Nat.toDigits 16 n

def quoteChar (c : Char) : List Char :=
  match c with
  | '"' => ['\\', '"']
  | '\\' => ['\\', '\\']
  | '\n' => ['\\', 'n']
  | '\r' => ['\\', 'r']
  | '\t' => ['\\', 't']
  | '\x00' => ['\\', '0']
  | c =>
    if c != ' ' && (Unicode.extending.contains c || Unicode.unseen.contains c) then
      ['\\', 'u', '\x7b'] ++ hex c.toNat ++ ['\x7d']
    else [c]

def render (s : String) : String := "\"" ++ String.ofList (s.toList.flatMap quoteChar) ++ "\""

end DataGrid.Quoted
