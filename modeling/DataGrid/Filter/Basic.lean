import DataGrid.Pattern.Like
import DataGrid.Pattern.Overlay
import DataGrid.Pattern.Parser
import DataGrid.Query.Entry
import DataGrid.Value.Order

/-!
# Filters

A filter is a test on entries as a client writes it. Compiling reads its attribute paths and
patterns once; what comes out is applied to each entry. A leaf with a missing attribute does
not match, except that `notEqual` then does.
-/

namespace DataGrid

inductive Comparison where
  | greater
  | greaterEqual
  | less
  | lessEqual
deriving DecidableEq

/-- Whether a comparison accepts an order. -/
def Comparison.accepts : Comparison → Ordering → Bool
  | .greater, o => o == .gt
  | .greaterEqual, o => o != .lt
  | .less, o => o == .lt
  | .lessEqual, o => o != .gt

inductive Filter where
  | always
  | equal (attr : String) (value : Value)
  | notEqual (attr : String) (value : Value)
  | compare (c : Comparison) (attr : String) (value : Value)
  /-- Both ends are included. -/
  | between (attr : String) (low high : Value)
  | oneOf (attr : String) (values : List Value)
  /-- A wildcard pattern for the whole text. -/
  | like (attr pattern : String)
  /-- A regular expression for a part of the text. -/
  | regex (attr pattern : String)
  | and (filters : List Filter)
  | or (filters : List Filter)
  | not (filter : Filter)
deriving Inhabited

inductive CompiledFilter where
  | always
  | equal (path : AttributePath) (value : Value)
  | compare (c : Comparison) (path : AttributePath) (value : Value)
  | between (path : AttributePath) (low high : Value)
  | oneOf (path : AttributePath) (values : List Value)
  | matching (path : AttributePath) (pattern : Pattern)
  | and (filters : List CompiledFilter)
  | or (filters : List CompiledFilter)
  | not (filter : CompiledFilter)

namespace Filter

/-- A pattern that a client asks for, which is reported as the text `written`. -/
def readPattern (written : String) (p : Except Pattern.Fault Pattern) :
    Except GridError Pattern :=
  match p with
  | .ok q => return q
  | .error .malformed => throw (.invalidRequest (.badPattern written))
  | .error .oversized => throw (.invalidRequest (.oversizedPattern written Pattern.sizeLimit))

mutual

/-- Reads every path and pattern; the first fault from left to right is the error. -/
def compile : Filter → Except GridError CompiledFilter
  | .always => return .always
  | .equal a v => return .equal (← AttributePath.parse a) v
  | .notEqual a v => return .not (.equal (← AttributePath.parse a) v)
  | .compare c a v => return .compare c (← AttributePath.parse a) v
  | .between a low high => return .between (← AttributePath.parse a) low high
  | .oneOf a vs => return .oneOf (← AttributePath.parse a) vs
  | .like a p =>
    return .matching (← AttributePath.parse a)
      (← readPattern (Pattern.likeText p) (Pattern.like p).checkSize)
  | .regex a p => return .matching (← AttributePath.parse a) (← readPattern p (Pattern.parse p))
  | .and fs => return .and (← compileAll fs)
  | .or fs => return .or (← compileAll fs)
  | .not f => return .not (← f.compile)

def compileAll : List Filter → Except GridError (List CompiledFilter)
  | [] => return []
  | f :: r => do
    let c ← f.compile
    let cs ← compileAll r
    return c :: cs

end

end Filter

namespace CompiledFilter

/-- Whether a value compares with a bound as wanted. -/
def compares (c : Comparison) (bound v : Value) : Bool := (v.compare? bound).any c.accepts

mutual

def apply (e : Entry) : CompiledFilter → Bool
  | .always => true
  | .equal p v => (e.extract p).any (·.looseEq v)
  | .compare c p v => (e.extract p).any (compares c v)
  | .between p low high =>
    (e.extract p).any fun v => compares .greaterEqual low v && compares .lessEqual high v
  | .oneOf p vs => (e.extract p).any fun v => vs.any v.looseEq
  | .matching p q => ((e.extract p).bind (·.asText?)).any q.isMatch
  | .and fs => applyAll e fs
  | .or fs => applyAny e fs
  | .not f => !f.apply e

def applyAll (e : Entry) : List CompiledFilter → Bool
  | [] => true
  | f :: r => f.apply e && applyAll e r

def applyAny (e : Entry) : List CompiledFilter → Bool
  | [] => false
  | f :: r => f.apply e || applyAny e r

end

end CompiledFilter

end DataGrid
