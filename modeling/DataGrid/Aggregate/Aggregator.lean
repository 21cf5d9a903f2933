import DataGrid.Aggregate.RunningSum
import DataGrid.Query.EntryOrder

/-!
# Aggregators

An aggregator folds entries one by one, and two partial aggregators of one name combine into
one. Every operation either succeeds or leaves the aggregator as it was, which is why it
returns the new aggregator only on success.

Distinct values are a set, which hands them out in an order that depends on nothing here. They are
kept in the order in which they came, and `result?` sorts them from that order; `Gives` says what
the result may be from any order.
-/

namespace DataGrid

inductive Extremum where
  | min
  | max
deriving DecidableEq

/-- Whether a candidate with this order to the current value replaces it. -/
def Extremum.prefers : Extremum → Ordering → Bool
  | .min, o => o == .lt
  | .max, o => o == .gt

inductive AggregateState where
  | count (n : UInt64)
  /-- The values seen, each kept in the form it had first. Their order means nothing. -/
  | distinct (values : List Value)
  | sum (s : RunningSum)
  | average (s : RunningSum) (n : UInt64)
  | extremum (which : Extremum) (current : Option Value)

def AggregateState.kindName : AggregateState → String
  | .count _ => "count"
  | .distinct _ => "distinct"
  | .sum _ => "sum"
  | .average .. => "avg"
  | .extremum .min _ => "min"
  | .extremum .max _ => "max"

structure Aggregator where
  name : String
  attr : Option AttributePath
  domain : Option NumericDomain
  state : AggregateState

namespace Aggregator

/-- What an aggregator looks at; a missing attribute is null. -/
def valueOf (a : Aggregator) (e : Entry) : Value := (e.extractOr a.attr).getD .null

def insertDistinct (vs : List Value) (v : Value) : List Value :=
  if vs.any (· == v) then vs else vs ++ [v]

/-- Lets `v` compete with the current extremum, which stays on a tie. -/
def offer (w : Extremum) (current : Option Value) (v : Value) : Except GridError (Option Value) :=
  match current with
  | none => return some v
  | some c =>
    match v.naturalCompare? c with
    | none => throw (.typeMismatch c.kind.name v.kind.name)
    | some o => return some (if w.prefers o then v else c)

/-- Whether a value may compete for an extremum. -/
def checkComparable (d : Option NumericDomain) (v : Value) : Except GridError Unit :=
  match d, v with
  | some d, v => if d.accepts v then return () else throw (d.mismatch v)
  | none, .null | none, .list _ | none, .object _ =>
    throw (.typeMismatch "comparable" v.kind.name)
  | none, _ => return ()

def requireDomain (a : Aggregator) : Except GridError NumericDomain :=
  match a.domain with
  | some d => return d
  | none => throw (.invalidRequest (.noDomain a.name))

/-- The state after one more value. -/
def stateAfter (a : Aggregator) (v : Value) : Except GridError AggregateState :=
  match a.state with
  | .count n => return .count (n + 1)
  | .distinct vs => return .distinct (insertDistinct vs v)
  | .sum s => do
    let d ← a.requireDomain
    return .sum (← s.add (← d.widen v))
  | .average s n => do
    let d ← a.requireDomain
    return .average (← s.add (← d.widen v)) (n + 1)
  | .extremum w current => do
    checkComparable a.domain v
    return .extremum w (← offer w current v)

def accumulate (a : Aggregator) (e : Entry) : Except GridError Aggregator := do
  return { a with state := ← a.stateAfter (a.valueOf e) }

/-- Folds several entries, up to the first failure. -/
def accumulateAll (a : Aggregator) (es : List Entry) : Except GridError Aggregator :=
  es.foldlM accumulate a

/-- The state of two partial results together. -/
def joinStates : AggregateState → AggregateState → Except GridError AggregateState
  | .count m, .count n => return .count (m + n)
  | .distinct vs, .distinct ws => return .distinct (ws.foldl insertDistinct vs)
  | .sum s, .sum t => return .sum (← s.merge t)
  | .average s m, .average t n => return .average (← s.merge t) (m + n)
  | .extremum w current, .extremum _ none => return .extremum w current
  | .extremum w current, .extremum _ (some v) => return .extremum w (← offer w current v)
  | s, t => throw (.invalidRequest (.differentStates s.kindName t.kindName))

def combine (a b : Aggregator) : Except GridError Aggregator := do
  if a.name != b.name then throw (.invalidRequest (.differentNames a.name b.name))
  return { a with state := ← joinStates a.state b.state }

/-- The value aggregated so far; nothing if the sort of the distinct values gives up. -/
def result? (a : Aggregator) : Option Value :=
  match a.state with
  | .count n => some (.long n.toInt64)
  | .distinct vs => (Value.sort? vs).map .list
  | .sum s => some s.toValue
  | .average s n => some (s.mean n.toNat)
  | .extremum _ current => some (current.getD .null)

/-- What may be the result, in whichever order the distinct values come out of their set. -/
def Gives (a : Aggregator) (o : Option Value) : Prop :=
  match a.state with
  | .distinct vs => ∃ us, us.Perm vs ∧ o = (Value.sort? us).map .list
  | _ => o = a.result?

end Aggregator

end DataGrid
