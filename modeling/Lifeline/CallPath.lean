import Lifeline.Participant

namespace Lifeline

abbrev Call := ParticipantId × String

structure CallPath where
  maxDepth : Option Nat
  calls : List Call := []
  deriving DecidableEq, Repr

inductive CallPath.Entry
  | entered (path : CallPath)
  | recursive
  | tooDeep

namespace CallPath

def depth (p : CallPath) : Nat :=
  p.calls.length

def contains (p : CallPath) (c : Call) : Bool :=
  p.calls.contains c

def isFull (p : CallPath) : Bool :=
  match p.maxDepth with
  | some max => p.depth ≥ max
  | none => false

def enter (p : CallPath) (c : Call) : Entry :=
  if p.contains c then .recursive
  else if p.isFull then .tooDeep
  else .entered { p with calls := p.calls ++ [c] }

def leave (p : CallPath) (mark : Nat) : CallPath :=
  { p with calls := p.calls.take mark }

end CallPath

end Lifeline
