import DataGrid.Text.Duration

/-!
# Errors

Everything a caller of a scan, an aggregation or a task can be told. A failure inside the
task of one partition wraps its cause; the status of a response goes by the innermost one.
-/

namespace DataGrid

/-- Why a request is refused. -/
inductive InvalidReason where
  | emptyPath
  | malformedPath (raw : String)
  /-- A pattern that is no regular expression. -/
  | badPattern (pattern : String)
  | oversizedPattern (pattern : String) (limit : Nat)
  | emptyPage
  | misplacedAnchor (page : Nat)
  | repeatedPartition (id : Nat)
  | unknownAggregator (name : String)
  | noDomain (aggregator : String)
  | differentNames (left right : String)
  | differentStates (left right : String)
  | differentSums (left right : String)
  | other (text : String)
deriving DecidableEq

/-- The text of a reason. That of a bad pattern ends with the pattern: a colon and the account that
the parser of patterns gives of what is wrong with it would come behind. -/
def InvalidReason.message : InvalidReason → String
  | .emptyPath => "empty attribute path"
  | .malformedPath raw => "malformed attribute path: " ++ raw
  | .badPattern p => "invalid pattern " ++ p
  | .oversizedPattern p limit =>
    "invalid pattern " ++ p ++ ": Compiled regex exceeds size limit of " ++ toString limit ++
      " bytes."
  | .emptyPage => "page size must be at least 1"
  | .misplacedAnchor page =>
    "anchor for page " ++ toString page ++ " is out of order or duplicated"
  | .repeatedPartition id => "partition " ++ toString id ++ " requested more than once"
  | .unknownAggregator name => "Unknown aggregator: " ++ name
  | .noDomain name => name ++ " has no numeric domain"
  | .differentNames a b => "cannot combine " ++ a ++ " with " ++ b
  | .differentStates a b => "cannot combine " ++ a ++ " state with " ++ b ++ " state"
  | .differentSums a b => "cannot combine a " ++ a ++ " sum with a " ++ b ++ " sum"
  | .other text => text

/-- Why work that had started did not finish. -/
inductive ExecutionReason where
  | cannotAdd (addend sum : String)
  | sumOverflow
  | other (text : String)
deriving DecidableEq

def ExecutionReason.message : ExecutionReason → String
  | .cannotAdd addend sum => "cannot add " ++ addend ++ " to a " ++ sum ++ " sum"
  | .sumOverflow => "big decimal sum overflowed"
  | .other text => text

inductive GridError where
  | taskFailure (partition : Nat) (cause : GridError)
  | deadlineExceeded (limit : Duration)
  | typeMismatch (expected actual : String)
  | cancelled
  | unknownPartition (id : Nat)
  | invalidRequest (reason : InvalidReason)
  | taskNotFound (id : String)
  | execution (reason : ExecutionReason)
  | remote (text : String)
deriving DecidableEq, Inhabited

namespace GridError

def message : GridError → String
  | .taskFailure p cause => "Task for partition " ++ toString p ++ " failed: " ++ cause.message
  | .deadlineExceeded limit =>
    "Deadline of " ++ limit.render ++ " exceeded before all partitions completed"
  | .typeMismatch expected actual => "Type mismatch: expected " ++ expected ++ ", got " ++ actual
  | .cancelled => "The operation was cancelled"
  | .unknownPartition p => "Unknown partition: " ++ toString p
  | .invalidRequest reason => "Invalid request: " ++ reason.message
  | .taskNotFound id => "Task not found: " ++ id
  | .execution reason => "Execution error: " ++ reason.message
  | .remote text => "Remote error: " ++ text

/-- The error inside all failures of partition tasks. -/
def rootCause : GridError → GridError
  | .taskFailure _ cause => cause.rootCause
  | e => e

/-- The status of a response that reports the error. -/
def status (e : GridError) : Nat :=
  match e.rootCause with
  | .deadlineExceeded _ => 504
  | .typeMismatch .. | .invalidRequest _ | .unknownPartition _ => 400
  | .taskNotFound _ => 404
  | .cancelled => 409
  | _ => 500

/-- The error of work that failed for a reason wrapped in contexts, the outermost first. -/
def ofContexts (texts : List String) : GridError :=
  .execution (.other (": ".intercalate texts))

@[simp] theorem rootCause_idem (e : GridError) : e.rootCause.rootCause = e.rootCause := by
  induction e with
  | taskFailure p c ih => exact ih
  | _ => rfl

end GridError

end DataGrid
