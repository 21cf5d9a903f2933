import DataGrid.Config.CommandLine
import DataGrid.Node.Endpoint

/-!
# The node program

Reads its options from the command line. It then answers requests, one on each line of its
input: a method, a target and perhaps a JSON body, with blanks between them. A request that is not
answered has an empty line.
-/

namespace DataGrid

/-- The request of a line. -/
def HttpRequest.ofLine (line : String) : HttpRequest :=
  let word (cs : List Char) := String.ofList (cs.takeWhile (!isBlank ·))
  let rest (cs : List Char) := (cs.dropWhile (!isBlank ·)).dropWhile isBlank
  let cs := trimBlanks line.toList
  let body := String.ofList (rest (rest cs))
  { method := word cs
    target := word (rest cs)
    contentType := if body.isEmpty then none else some "application/json"
    body }

/-- The line that tells a response. -/
def HttpResponse.toLine (r : HttpResponse) : String :=
  match r.body with
  | some b => toString r.status ++ " " ++ b.render
  | none => toString r.status

end DataGrid

open DataGrid

/-- Answers lines until the input ends; `last` is the time of the line before. -/
partial def serveLines (n : Node) (last : Nat) (input output : IO.FS.Stream) : IO Unit := do
  let line ← input.getLine
  unless line.isEmpty do
    let now ← IO.monoMsNow
    let (response, n) := (n.advance (now - last)).serve (.ofLine line)
    output.putStrLn ((response.map HttpResponse.toLine).getD "")
    output.flush
    serveLines n now input output

def main (args : List String) : IO UInt32 := do
  let program := (← IO.appPath).toString
  match NodeOptions.parse 4 (program :: args) with
  | .error fault =>
    (← IO.getStderr).putStr (NodeOptions.refusal program fault)
    return 1
  | .ok options =>
    let node := Node.new options.engine .builtin
    serveLines node (← IO.monoMsNow) (← IO.getStdin) (← IO.getStdout)
    return 0
