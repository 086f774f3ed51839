import Lifeline.Roster
import Lifeline.Scopes
import Lifeline.Message

namespace Lifeline

structure Target where
  participant : ParticipantId
  function : Option Function
  operation : String
  captured : Option Bindings

inductive Resolution
  | found (certainty : Certainty) (target : Target)
  | unresolved (name : String)
  /-- The callee is known, but the filter keeps it out. -/
  | filtered

namespace Casting

def target (c : Casting) (certainty : Certainty) (entity : Entity) (function : Option Function)
    (captured : Option Bindings) : Cast Resolution := do
  let participant ← c.intern entity
  if participant.isTombstone then return .filtered
  let operation := (← get).operation participant
  return .found certainty { participant, function, operation, captured }

def certaintyOf : Dispatch → Certainty
  | .static => .exact
  | .virtual => .staticType

def resolveDecl (c : Casting) (id : DeclId) (args : List String) (dispatch : Dispatch)
    (captured : Option Bindings) : Cast Resolution := do
  let (d, f) ← c.program.function id
  let entity := if args.isEmpty then Entity.decl d else .instantiation d args
  c.target (certaintyOf dispatch) entity (some f) captured

def resolveValue (c : Casting) (value : Value) (name : String) : Cast Resolution :=
  match value with
  | .lambda operator captured => c.resolveDecl operator [] .static (some captured)
  | .function decl => c.resolveDecl decl [] .static none
  | .unknown => return .unresolved name

def resolveCallee (c : Casting) (callee : Callee) (scopes : Scopes) : Cast Resolution :=
  match callee with
  | .decl id args dispatch => c.resolveDecl id args dispatch none
  | .var name =>
    match scopes.get? name with
    | some value => c.resolveValue value name
    | none => return .unresolved name
  | .unresolved _ (some template) => do
    let (d, f) ← c.program.function template
    c.target .approximate (.decl d) (some f) none
  | .unresolved name none => return .unresolved name
  | .expr _ => return .unresolved "<expression>"

def resolveConstruct (c : Casting) (cls : DeclId) (ctor : Option DeclId) : Cast Resolution := do
  match ctor with
  | some ctor => c.resolveDecl ctor [] .static none
  | none => c.target .exact (.decl (← c.program.decl cls)) none none

def resolveAwaiter (c : Casting) (awaiter : Option DeclId) (coroutine : ParticipantId) :
    Cast Resolution := do
  match awaiter with
  | some awaiter => c.resolveDecl awaiter [] .static none
  | none =>
    let participant ← c.intern (.coroutineState coroutine)
    return .found .exact
      { participant, function := none, operation := "co_await", captured := none }

end Casting

end Lifeline
