import DataGrid.Config.Engine
import DataGrid.Config.SocketAddress

/-!
# The command line of a node

Flags, each followed by its value. A flag given again overrides its earlier value, a word in
the place of a flag that is none is passed over, and a value may look like a flag.
-/

namespace DataGrid

inductive Flag where
  | bind
  | partitions
  | workers
  | timeoutSeconds
  | finishedTaskLimit
deriving DecidableEq

namespace Flag

def word : Flag → String
  | .bind => "--bind"
  | .partitions => "--partitions"
  | .workers => "--workers"
  | .timeoutSeconds => "--timeout-secs"
  | .finishedTaskLimit => "--finished-task-limit"

def all : List Flag := [.bind, .partitions, .workers, .timeoutSeconds, .finishedTaskLimit]

def ofWord? (w : String) : Option Flag := all.find? (·.word = w)

@[simp] theorem ofWord?_word (f : Flag) : ofWord? f.word = some f := by cases f <;> decide

end Flag

/-- Why a text is no natural number of a given width. -/
inductive NumberFault where
  | empty
  | invalidDigit
  | tooLarge
deriving DecidableEq

def NumberFault.message : NumberFault → String
  | .empty => "cannot parse integer from empty string"
  | .invalidDigit => "invalid digit found in string"
  | .tooLarge => "number too large to fit in target type"

inductive OptionFault where
  | missingValue (flag : Flag)
  | number (fault : NumberFault)
  | address
  | noAddress
  | engine (fault : EngineFault)
deriving DecidableEq

def OptionFault.message : OptionFault → String
  | .missingValue f => "missing value for " ++ f.word
  | .number fault => fault.message
  | .address => "invalid socket address syntax"
  | .noAddress => "--bind is required"
  | .engine fault => fault.message

/-- The digits of a number below `bound`, after those that make up `n`. -/
def readDigits (bound n : Nat) : List Char → Except NumberFault Nat
  | [] => return n
  | c :: r =>
    if c.isDigit then
      let m := n * 10 + (c.toNat - '0'.toNat)
      if m < bound then readDigits bound m r else throw .tooLarge
    else throw .invalidDigit

/-- A natural number below `2 ^ bits` in decimal digits; a plus sign may stand before them. -/
def readNatural (bits : Nat) (s : String) : Except NumberFault Nat :=
  match s.toList with
  | [] => throw .empty
  | '+' :: c :: r => readDigits (2 ^ bits) 0 (c :: r)
  | cs => readDigits (2 ^ bits) 0 cs

/-- Everything a node needs to come up. -/
structure NodeOptions where
  bind : SocketAddress
  engine : EngineConfig

/-- The options read so far. -/
structure OptionDraft where
  bind : Option SocketAddress := none
  engine : EngineConfig

namespace OptionDraft

/-- Takes the value of a flag over into the options. -/
def set (o : OptionDraft) (f : Flag) (value : String) : Except OptionFault OptionDraft :=
  let natural (bits : Nat) : Except OptionFault Nat := (readNatural bits value).mapError .number
  match f with
  | .bind =>
    match SocketAddress.parse? value with
    | some a => return { o with bind := some a }
    | none => throw .address
  | .partitions => do return { o with engine.partitionCount := ← natural 32 }
  | .workers => do return { o with engine.poolCapacity := ← natural 64 }
  | .timeoutSeconds => do return { o with engine.queryTimeout := .ofSeconds (← natural 64) }
  | .finishedTaskLimit => do return { o with engine.finishedTaskLimit := ← natural 64 }

/-- Takes over the words of a command line. -/
def readWords (o : OptionDraft) : List String → Except OptionFault OptionDraft
  | [] => return o
  | [w] =>
    match Flag.ofWord? w with
    | some f => throw (.missingValue f)
    | none => return o
  | w :: v :: r =>
    match Flag.ofWord? w with
    | some f => do readWords (← o.set f v) r
    | none => readWords o (v :: r)

/-- The options, once everything required is there and in range. -/
def complete (o : OptionDraft) : Except OptionFault NodeOptions := do
  match o.bind with
  | none => throw .noAddress
  | some a =>
    o.engine.validate.mapError .engine
    return ⟨a, o.engine⟩

end OptionDraft

namespace NodeOptions

/-- Reads a command line, the name of the program first, for a machine with this many
processors. -/
def parse (processors : Nat) (args : List String) : Except OptionFault NodeOptions := do
  let draft : OptionDraft := { engine := .standard processors }
  (← draft.readWords (args.drop 1)).complete

/-- What a program tells the user whose command line it refuses. -/
def refusal (program : String) (fault : OptionFault) : String :=
  let usage := " --bind <addr:port> [--partitions <n>] [--workers <n>] [--timeout-secs <n>]" ++
    " [--finished-task-limit <n>]\n"
  "Error: " ++ fault.message ++ "\n" ++
    "Usage: " ++ program ++ usage ++
    "Example: " ++ program ++ " --bind 127.0.0.1:6000 --workers 8\n"

end NodeOptions

end DataGrid
