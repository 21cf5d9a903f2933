import DataGrid.Text.ByteRange
import Std.Data.HashMap

/-!
# Automata over bytes

How many states and links an automaton has, and how it grows by the states that read a character
of a set. States that lead to the same continuation by the same bytes are shared through a table
with a fixed number of slots, in which a newer state takes the slot of an older one.
-/

namespace DataGrid.Pattern

/-- The size of an automaton; links are those beyond the one that every state has. -/
structure Automaton where
  states : Nat
  linkBytes : Nat

namespace Automaton

def empty : Automaton := ⟨0, 0⟩

def addStates (a : Automaton) (n : Nat) : Automaton := { a with states := a.states + n }

/-- A state that branches to `n` others. -/
def addBranch (a : Automaton) (n : Nat) : Automaton := ⟨a.states + 1, a.linkBytes + 4 * n⟩

/-- A state with links for `n` ranges of bytes. -/
def addChoice (a : Automaton) (n : Nat) : Automaton := ⟨a.states + 1, a.linkBytes + 8 * n⟩

/-- One more link of a branch, if what was built last ends in a branch. -/
def continueFrom (a : Automaton) (branching : Bool) : Automaton :=
  if branching then { a with linkBytes := a.linkBytes + 4 } else a

def room (a : Automaton) : Nat := 32 * a.states + a.linkBytes

end Automaton

/-! ## Sets of characters -/

/-- What a slot of a table is chosen by starts with this number. -/
def mixStart : UInt64 := 14695981039346656037

/-- Mixes a number into what a slot is chosen by. -/
def mix (h : UInt64) (n : Nat) : UInt64 := (h ^^^ n.toUInt64) * 1099511628211

/-- A link of a state: a range of bytes and the number of the state it leads to. -/
structure Link where
  bytes : ByteRange
  target : Nat
deriving DecidableEq

def mixLinks (h : UInt64) : List Link → UInt64
  | [] => h
  | l :: ls => mixLinks (mix (mix (mix h l.bytes.low) l.bytes.high) l.target) ls

/-- An automaton that grows, with the states that it may share: in each slot the newest one with
what it was built from. -/
structure Shared (κ : Type) where
  automaton : Automaton
  table : Std.HashMap Nat (κ × Nat)

/-- The state in a slot, if it was built from this key. -/
def Shared.find? {κ : Type} [DecidableEq κ] (s : Shared κ) (slot : Nat) (key : κ) :
    Option Nat :=
  (s.table.get? slot).bind fun p => if p.1 = key then some p.2 else none

/-- Puts a new state into a slot; `grown` is the automaton with it. -/
def Shared.build {κ : Type} (s : Shared κ) (slot : Nat) (key : κ) (grown : Automaton) :
    Nat × Shared κ :=
  (s.automaton.states, ⟨grown, s.table.insert slot (key, s.automaton.states)⟩)

/-- A state without its last link, which leads to a state that is not built yet. -/
structure Draft where
  links : List Link
  last : Option ByteRange

/-- The links of a state once its last one leads to `target`. -/
def Draft.close (d : Draft) (target : Nat) : Draft :=
  match d.last with
  | none => d
  | some r => ⟨d.links ++ [⟨r, target⟩], none⟩

/-- The number of a state with these links, an older one if the table has it. -/
def Shared.stateOf (s : Shared (List Link)) (links : List Link) : Nat × Shared (List Link) :=
  let slot := (mixLinks mixStart links).toNat % 10000
  match s.find? slot links with
  | some n => (n, s)
  | none => s.build slot links (s.automaton.addChoice links.length)

/-- Builds the drafts, the last one first; each leads to the one after it. -/
def closeDrafts (target : Nat) (s : Shared (List Link)) :
    List Draft → Nat × Shared (List Link)
  | [] => (target, s)
  | d :: ds =>
    let (n, s) := closeDrafts target s ds
    s.stateOf (d.close n).links

/-- How many drafts lead on by the ranges of the sequence. -/
def agreement : List ByteRange → List Draft → Nat
  | r :: rs, d :: ds => if d.last = some r then agreement rs ds + 1 else 0
  | _, _ => 0

/-- Adds a sequence after all smaller ones to the drafts of the states on the way to `target`. -/
def addSequence (target : Nat) (drafts : List Draft) (s : Shared (List Link))
    (rs : List ByteRange) : List Draft × Shared (List Link) :=
  let k := agreement rs drafts
  let (n, s) := closeDrafts target s (drafts.drop (k + 1))
  let kept := match drafts.drop k, rs.drop k with
    | d :: _, r :: _ => drafts.take k ++ [{ d.close n with last := some r }]
    | _, _ => drafts
  (kept ++ (rs.drop (k + 1)).map fun r => ⟨[], some r⟩, s)

def addSequences (target : Nat) (drafts : List Draft) (s : Shared (List Link)) :
    List (List ByteRange) → List Draft × Shared (List Link)
  | [] => (drafts, s)
  | rs :: rest =>
    let (drafts, s) := addSequence target drafts s rs
    addSequences target drafts s rest

/-- A set of characters, read forwards: its ends are shared. -/
def growForwards (sequences : List (List ByteRange)) (a : Automaton) : Automaton :=
  let target := a.states
  let (drafts, s) := addSequences target [⟨[], none⟩] ⟨a.addStates 1, ∅⟩ sequences
  (closeDrafts target s drafts).2.automaton

/-- Ranges of bytes before the state `target`, read backwards. -/
def addBackwards (target : Nat) (s : Shared (Nat × ByteRange)) :
    List ByteRange → Shared (Nat × ByteRange)
  | [] => s
  | r :: rs =>
    let slot := (mix (mix (mix mixStart target) r.low) r.high).toNat % 1000
    match s.find? slot (target, r) with
    | some n => addBackwards n s rs
    | none =>
      let (n, s) := s.build slot (target, r) (s.automaton.addStates 1)
      addBackwards n s rs

/-- A set of characters, read backwards: a branch over its sequences, whose beginnings are
shared. -/
def growBackwards (sequences : List (List ByteRange)) (a : Automaton) : Automaton :=
  let start : Shared (Nat × ByteRange) := ⟨(a.addBranch sequences.length).addStates 1, ∅⟩
  (sequences.foldl (fun s rs => addBackwards (a.states + 1) s rs) start).automaton

end DataGrid.Pattern
