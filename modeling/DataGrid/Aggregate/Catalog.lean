import DataGrid.Aggregate.Aggregator

/-!
# The catalog of aggregators

The aggregators that a request can name. A fresh one has seen nothing; it looks at the whole
value unless an attribute is given.
-/

namespace DataGrid

/-- What an aggregator of the catalog computes. -/
inductive AggregateFunction where
  | count
  | distinct
  | sum (d : NumericDomain)
  | average (d : NumericDomain)
  | extremum (which : Extremum) (d : Option NumericDomain)
deriving DecidableEq

namespace AggregateFunction

def domain : AggregateFunction → Option NumericDomain
  | .count | .distinct => none
  | .sum d | .average d => some d
  | .extremum _ d => d

def start : AggregateFunction → AggregateState
  | .count => .count 0
  | .distinct => .distinct []
  | .sum d => .sum d.emptySum
  | .average d => .average d.emptySum 0
  | .extremum w _ => .extremum w none

end AggregateFunction

namespace Catalog

def functions : List (String × AggregateFunction) := [
  ("count", .count),
  ("distinct", .distinct),
  ("big_decimal_avg", .average .bigDecimal),
  ("big_integer_avg", .average .bigInteger),
  ("double_avg", .average .double),
  ("integer_avg", .average .integer),
  ("long_avg", .average .long),
  ("number_avg", .average .number),
  ("big_decimal_max", .extremum .max (some .bigDecimal)),
  ("big_integer_max", .extremum .max (some .bigInteger)),
  ("double_max", .extremum .max (some .double)),
  ("integer_max", .extremum .max (some .integer)),
  ("long_max", .extremum .max (some .long)),
  ("comparable_max", .extremum .max none),
  ("big_decimal_min", .extremum .min (some .bigDecimal)),
  ("big_integer_min", .extremum .min (some .bigInteger)),
  ("double_min", .extremum .min (some .double)),
  ("integer_min", .extremum .min (some .integer)),
  ("long_min", .extremum .min (some .long)),
  ("comparable_min", .extremum .min none),
  ("big_decimal_sum", .sum .bigDecimal),
  ("big_integer_sum", .sum .bigInteger),
  ("double_sum", .sum .double),
  ("integer_sum", .sum .integer),
  ("long_sum", .sum .long),
  ("fixed_point_sum", .sum .fixedPoint),
  ("floating_point_sum", .sum .floatingPoint)]

def names : List String := functions.map (·.1)

/-- A fresh aggregator of the catalog. -/
def fresh (name : String) (f : AggregateFunction) (attr : Option AttributePath) : Aggregator :=
  ⟨name, attr, f.domain, f.start⟩

def function? (name : String) : Option AggregateFunction := functions.lookup name

/-- The fresh aggregator of a name; a fault in the attribute counts before an unknown name. -/
def aggregator (name : String) (attr : Option String) : Except GridError Aggregator := do
  let path ← attr.mapM AttributePath.parse
  match function? name with
  | some f => return fresh name f path
  | none => throw (.invalidRequest (.unknownAggregator name))

end Catalog

end DataGrid
