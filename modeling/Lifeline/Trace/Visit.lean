import Lifeline.Trace.Dispatch

namespace Lifeline

def Stmt.alternatives : Option Stmt → Nat
  | none => 0
  | some (.ifElse _ _ no _ _) => Stmt.alternatives no + 1
  | some _ => 1

def Stmt.anyAtCompileTime : Option Stmt → Bool
  | some (.ifElse _ _ no atCompileTime _) => atCompileTime || Stmt.anyAtCompileTime no
  | _ => false

namespace Tracer

def takenOver : List Value → Option Value
  | [v] => if v.isCallable then some v else none
  | _ => none

mutual

def visitExpr (t : Tracer) (enter : Enter) (a : Activation) : Expr → Visit Value
  | .call callee object args location comment => do
    let calleeValue ← t.visitCallee enter a callee
    t.visitOption enter a object
    let values ← t.visitArgs enter a args
    let resolution ← match calleeValue with
      | some value => Visit.cast (t.casting.resolveValue value "<expression>")
      | none => do Visit.cast (t.casting.resolveCallee callee (← get).scopes)
    t.dispatch enter a .call resolution values location comment
    return .unknown
  | .construct cls ctor args location comment => do
    let values ← t.visitArgs enter a args
    let handedOn := if (takenOver values).isSome then [] else values
    let resolution ← Visit.cast (t.casting.resolveConstruct cls ctor)
    t.dispatch enter a .call resolution handedOn location comment
    return (takenOver values).getD .unknown
  | .lambda operator _ => return .lambda operator (← get).scopes.snapshot
  | .coAwait operand awaiter location => do
    let _ ← t.visitExpr enter a operand
    let resolution ← Visit.cast (t.casting.resolveAwaiter awaiter a.caller)
    t.dispatch enter a .coAwait resolution [] location none
    return .unknown
  | .coYield operand location => do
    let _ ← t.visitExpr enter a operand
    match a.returnTo with
    | some receiver =>
      if t.options.returnMessages then respond a a.caller receiver "co_yield" location
      return .unknown
    | none => return .unknown
  | .async launcher callable args location => do
    let value ← t.visitExpr enter a callable
    let values ← t.visitArgs enter a args
    let resolution ← Visit.cast (t.casting.resolveValue value launcher)
    t.dispatch enter a .asyncCall resolution values location none
    return .unknown
  | .declRef decl => return .function decl
  | .var name => return ((← get).scopes.get? name).getD .unknown
  | .assign target value => do
    let v ← t.visitExpr enter a value
    modify fun s => { s with scopes := s.scopes.assign target v }
    return v
  | .conditional cond yes no text => do
    let block ← Visit.nextBlock
    let first := a.enter (.branch block .conditional 0 2 (t.caption text))
    let second := a.enter (.branch block .conditional 1 2 (t.caption (some "else")))
    let _ ← t.visitExpr enter first.inCondition cond
    let _ ← t.visitExpr enter first yes
    let _ ← t.visitExpr enter second no
    return .unknown
  | .other children => do
    let _ ← t.visitArgs enter a children
    return .unknown

def visitCallee (t : Tracer) (enter : Enter) (a : Activation) : Callee → Visit (Option Value)
  | .expr e => do return some (← t.visitExpr enter a e)
  | .decl _ _ _ => return none
  | .var _ => return none
  | .unresolved _ _ => return none

def visitOption (t : Tracer) (enter : Enter) (a : Activation) : Option Expr → Visit Unit
  | none => pure ()
  | some e => do let _ ← t.visitExpr enter a e

def visitArgs (t : Tracer) (enter : Enter) (a : Activation) : List Expr → Visit (List Value)
  | [] => return []
  | e :: rest => do
    let v ← t.visitExpr enter a e
    return v :: (← t.visitArgs enter a rest)

end

def visitCondition (t : Tracer) (enter : Enter) (a : Activation) (e : Expr) : Visit Unit := do
  let _ ← t.visitExpr enter a.inCondition e

def visitConditionOption (t : Tracer) (enter : Enter) (a : Activation) : Option Expr → Visit Unit
  | none => pure ()
  | some e => t.visitCondition enter a e

def caseLabel : Option String → String
  | some label => "case " ++ label
  | none => "default"

mutual

def visitStmt (t : Tracer) (enter : Enter) (a : Activation) : Stmt → Visit Flow
  | .block body => Visit.inScope (t.visitBlock enter a body)
  | .expr e => do
    let _ ← t.visitExpr enter a e
    return .goOn
  | .declare name value => do
    let v ← match value with
      | some e => t.visitExpr enter a e
      | none => pure .unknown
    modify fun s => { s with scopes := s.scopes.bind name v }
    return .goOn
  | .ifElse cond yes no atCompileTime text => do
    let kind :=
      if atCompileTime || Stmt.anyAtCompileTime no then BranchKind.atCompileTime else .ifElse
    let total := Stmt.alternatives no + 1
    let block ← Visit.nextBlock
    let inside := a.enter (.branch block kind 0 total (t.caption text))
    t.visitCondition enter inside cond
    let _ ← t.visitStmt enter inside yes
    t.visitElse enter a block kind total 1 no
    return .goOn
  | .switch cond cases _ => do
    let block ← Visit.nextBlock
    match cases with
    | [] => t.visitCondition enter a cond
    | ⟨label, body⟩ :: rest =>
      let total := rest.length + 1
      let inside := a.enter (.branch block .switch 0 total (t.caption (some (caseLabel label))))
      t.visitCondition enter inside cond
      let _ ← Visit.inScope (t.visitBlock enter inside body)
      t.visitCases enter a block total 1 rest
    return .goOn
  | .whileLoop cond body text => do
    let inside := a.enter (.loop (← Visit.nextBlock) .whileLoop (t.caption text))
    t.visitCondition enter inside cond
    let _ ← t.visitStmt enter inside body
    return .goOn
  | .doLoop body cond text => do
    let inside := a.enter (.loop (← Visit.nextBlock) .doLoop (t.caption text))
    let _ ← t.visitStmt enter inside body
    t.visitCondition enter inside cond
    return .goOn
  | .forLoop first cond step body text =>
    Visit.inScope do
      t.visitFirst enter a first
      let inside := a.enter (.loop (← Visit.nextBlock) .forLoop (t.caption text))
      t.visitConditionOption enter inside cond
      let _ ← t.visitStmt enter inside body
      t.visitOption enter inside step
      return .goOn
  | .forEach range body text => do
    let _ ← t.visitExpr enter a range
    let inside := a.enter (.loop (← Visit.nextBlock) .forEach (t.caption text))
    let _ ← t.visitStmt enter inside body
    return .goOn
  | .tryCatch body handlers => do
    let flow ← t.visitStmt enter a body
    let block ← Visit.nextBlock
    t.visitHandlers enter a block 0 handlers
    return flow
  | .ret value => do
    t.visitOption enter a value
    return .exit
  | .coReturn value => do
    t.visitOption enter a value
    return .exit
  | .breakOut => return .exit
  | .continueOn => return .exit
  | .skip => return .goOn

def visitBlock (t : Tracer) (enter : Enter) (a : Activation) : List Stmt → Visit Flow
  | [] => return .goOn
  | s :: rest => do
    match ← t.visitStmt enter a s with
    | .exit => return .exit
    | .goOn => t.visitBlock enter a rest

def visitElse (t : Tracer) (enter : Enter) (a : Activation) (block : Nat) (kind : BranchKind)
    (total index : Nat) : Option Stmt → Visit Unit
  | none => pure ()
  | some (.ifElse cond yes no _ text) => do
    let inside := a.enter (.branch block kind index total (t.caption text))
    t.visitCondition enter inside cond
    let _ ← t.visitStmt enter inside yes
    t.visitElse enter a block kind total (index + 1) no
  | some s => do
    let inside := a.enter (.branch block kind index total (t.caption (some "else")))
    let _ ← t.visitStmt enter inside s

def visitCases (t : Tracer) (enter : Enter) (a : Activation) (block total index : Nat) :
    List Case → Visit Unit
  | [] => pure ()
  | ⟨label, body⟩ :: rest => do
    let inside := a.enter (.branch block .switch index total (t.caption (some (caseLabel label))))
    let _ ← Visit.inScope (t.visitBlock enter inside body)
    t.visitCases enter a block total (index + 1) rest

def visitHandlers (t : Tracer) (enter : Enter) (a : Activation) (block index : Nat) :
    List Handler → Visit Unit
  | [] => pure ()
  | ⟨exception, body⟩ :: rest => do
    let inside := a.enter (.handler block index (some (exception.getD "...")))
    let _ ← t.visitStmt enter inside body
    t.visitHandlers enter a block (index + 1) rest

def visitFirst (t : Tracer) (enter : Enter) (a : Activation) : Option Stmt → Visit Unit
  | none => pure ()
  | some s => do let _ ← t.visitStmt enter a s

end

def visitBody (t : Tracer) (enter : Enter) (a : Activation) (f : Function) (body : Stmt)
    (operation : String) : Visit Unit := do
  if f.isCoroutine then
    let block ← Visit.nextBlock
    let _ ← t.visitStmt enter (a.enter (.coroutine block (some operation))) body
  else
    let _ ← t.visitStmt enter a body

end Tracer

end Lifeline
