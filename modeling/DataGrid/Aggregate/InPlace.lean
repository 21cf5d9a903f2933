import DataGrid.Aggregate.Aggregator

/-!
# Aggregators in place

The operations of an aggregator as the steps in which they write into it. A step that fails ends its
operation and takes nothing back: what the steps before it have written is there for a caller that
goes on with the aggregator.
-/

namespace DataGrid

/-- An operation on a state in place; a failure leaves what was written before it. -/
abbrev InPlace (σ α : Type) := EStateM GridError σ α

namespace InPlace

variable {σ τ α : Type}

/-- The result of a computation that writes nothing. -/
def check : Except GridError α → InPlace σ α
  | .ok a => return a
  | .error e => throw e

/-- Works on a part of the state, around which `wrap` puts the rest. -/
def within (wrap : τ → σ) (part : τ) (op : InPlace τ α) : InPlace σ α := fun _ =>
  match op part with
  | .ok a t => .ok a (wrap t)
  | .error e t => .error e (wrap t)

/-! ## Sums -/

def addDecimals (c d : Decimal) : InPlace RunningSum Decimal :=
  match c.add? d with
  | some x => return x
  | none => throw (.execution .sumOverflow)

def add (a : Addend) : InPlace RunningSum Unit := do
  match ← get, a with
  | .long m, .long n => set (RunningSum.long (m + n))
  | .double x, .double y => set (RunningSum.double (x + y))
  | .bigInteger m, .bigInteger n => set (RunningSum.bigInteger (m + n))
  | .bigDecimal c, .bigDecimal d => set (RunningSum.bigDecimal (← addDecimals c d))
  | .mixed m x, .long n => set (RunningSum.mixed (m + n) x)
  | .mixed m x, .double y => set (RunningSum.mixed m (x + y))
  | s, a => throw (.execution (.cannotAdd a.describe s.kindName))

/-- The lanes of a mixed sum are written one after the other. -/
def merge (t : RunningSum) : InPlace RunningSum Unit := do
  match ← get, t with
  | .long m, .long n => set (RunningSum.long (m + n))
  | .double x, .double y => set (RunningSum.double (x + y))
  | .bigInteger m, .bigInteger n => set (RunningSum.bigInteger (m + n))
  | .bigDecimal c, .bigDecimal d => set (RunningSum.bigDecimal (← addDecimals c d))
  | .mixed m x, .mixed n y =>
    set (RunningSum.mixed (m + n) x)
    set (RunningSum.mixed (m + n) (x + y))
  | s, t => throw (.invalidRequest (.differentSums s.kindName t.kindName))

/-! ## States -/

/-- Lets `v` compete with the current extremum. -/
def offer (w : Extremum) (v : Value) : InPlace (Option Value) Unit := do
  match ← get with
  | none => set (some v)
  | some c =>
    match v.naturalCompare? c with
    | none => throw (.typeMismatch c.kind.name v.kind.name)
    | some o => if w.prefers o then set (some v)

/-- Counts `k` more values of an average. -/
def countMore (k : UInt64) : InPlace AggregateState Unit :=
  modify fun
    | .average s n => .average s (n + k)
    | s => s

/-- Takes a value into the state of `a`. An extremum checks the value first; the count of an
average is written after its sum. -/
def take (a : Aggregator) (v : Value) : InPlace AggregateState Unit := do
  match ← get with
  | .count n => set (AggregateState.count (n + 1))
  | .distinct vs => set (AggregateState.distinct (Aggregator.insertDistinct vs v))
  | .sum s =>
    let d ← check a.requireDomain
    within .sum s (add (← check (d.widen v)))
  | .average s n =>
    let d ← check a.requireDomain
    within (.average · n) s (add (← check (d.widen v)))
    countMore 1
  | .extremum w current =>
    check (Aggregator.checkComparable a.domain v)
    within (.extremum w) current (offer w v)

/-- Takes in the state of another aggregator; distinct values come one by one. -/
def join (t : AggregateState) : InPlace AggregateState Unit := do
  match ← get, t with
  | .count m, .count n => set (AggregateState.count (m + n))
  | .distinct vs, .distinct ws =>
    within .distinct vs (ws.forM fun w => modify (Aggregator.insertDistinct · w))
  | .sum s, .sum t => within .sum s (merge t)
  | .average s m, .average t n =>
    within (.average · m) s (merge t)
    countMore n
  | .extremum _ _, .extremum _ none => pure ()
  | .extremum w current, .extremum _ (some v) => within (.extremum w) current (offer w v)
  | s, t => throw (.invalidRequest (.differentStates s.kindName t.kindName))

/-! ## Aggregators -/

def accumulate (e : Entry) : InPlace Aggregator Unit := do
  let a ← get
  within (fun s => { a with state := s }) a.state (take a (a.valueOf e))

def combine (b : Aggregator) : InPlace Aggregator Unit := do
  let a ← get
  if a.name != b.name then throw (.invalidRequest (.differentNames a.name b.name))
  within (fun s => { a with state := s }) a.state (join b.state)

end InPlace

end DataGrid
