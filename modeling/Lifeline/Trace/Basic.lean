import Lifeline.Resolution
import Lifeline.CallPath
import Lifeline.Interaction.Basic

/-! Tracing: what a visit of code depends on and what it changes.

A visit is given an `Activation` and hands on a `Trace`. What the activation holds is the same after
every visit as before it, and a visit that fails keeps what it has recorded. -/

namespace Lifeline

inductive UnresolvedPolicy
  | elide
  | external
  deriving DecidableEq, Repr

structure TraceOptions where
  returnMessages : Bool := false
  conditionText : Bool := true
  comments : Bool := false
  inlineLambdas : Bool := false
  unresolved : UnresolvedPolicy := .elide
  maxDepth : Option Nat := none

structure Tracer where
  casting : Casting
  options : TraceOptions

/-- Where in the course of calls code is visited. -/
structure Activation where
  path : CallPath
  context : Context := []
  caller : ParticipantId
  /-- Who called the caller. -/
  returnTo : Option ParticipantId := none
  scope : MessageScope := .normal
  /-- How many closures on the path are drawn as part of their caller. -/
  inlined : Nat := 0

structure Trace where
  roster : Roster := {}
  blocks : Nat := 0
  interaction : Interaction := {}
  scopes : Scopes := .empty

/-- A visit hands on the trace, also when it fails. -/
abbrev Visit := ExceptT Fault (StateM Trace)

namespace Activation

def enter (a : Activation) (f : Frame) : Activation :=
  { a with context := a.context ++ [f] }

def inCondition (a : Activation) : Activation :=
  { a with scope := .condition }

def depth (a : Activation) : Nat :=
  a.path.depth - (1 + a.inlined)

def calling (a : Activation) (path : CallPath) (callee : ParticipantId)
    (inlined : Bool) : Activation :=
  if inlined then { a with path, inlined := a.inlined + 1 }
  else { a with path, caller := callee, returnTo := some a.caller, scope := .normal }

end Activation

namespace Visit

def cast (x : Cast α) : Visit α := fun t =>
  match x t.roster with
  | (result, roster) => (result, { t with roster })

def nextBlock : Visit Nat :=
  modifyGet fun t => (t.blocks, { t with blocks := t.blocks + 1 })

def push (m : Message) : Visit Unit :=
  modify fun t => { t with interaction := t.interaction.push m }

def inScope (v : Visit α) : Visit α := fun t =>
  match v { t with scopes := t.scopes.push } with
  | (result, t) => (result, { t with scopes := t.scopes.pop })

def withScopes (scopes : Scopes) (v : Visit α) : Visit α := fun t =>
  match v { t with scopes } with
  | (result, after) => (result, { after with scopes := t.scopes })

end Visit

end Lifeline
