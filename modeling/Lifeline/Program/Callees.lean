import Lifeline.Program.Basic

namespace Lifeline

mutual

def Expr.callees : Expr → List DeclId
  | .call callee object args _ _ =>
    callee.callees ++ Expr.calleesOption object ++ Expr.calleesList args
  | .construct _ ctor args _ _ => ctor.toList ++ Expr.calleesList args
  | .lambda _ _ => []
  | .coAwait operand _ _ => operand.callees
  | .coYield operand _ => operand.callees
  | .async _ callable args _ => callable.callees ++ Expr.calleesList args
  | .declRef decl => [decl]
  | .var _ => []
  | .assign _ value => value.callees
  | .conditional cond yes no _ => cond.callees ++ yes.callees ++ no.callees
  | .other children => Expr.calleesList children

def Expr.calleesList : List Expr → List DeclId
  | [] => []
  | e :: rest => e.callees ++ Expr.calleesList rest

def Expr.calleesOption : Option Expr → List DeclId
  | none => []
  | some e => e.callees

def Callee.callees : Callee → List DeclId
  | .decl id _ _ => [id]
  | .expr e => e.callees
  | .var _ => []
  | .unresolved _ _ => []

end

mutual

def Stmt.callees : Stmt → List DeclId
  | .block body => Stmt.calleesList body
  | .expr e => e.callees
  | .declare _ value => Expr.calleesOption value
  | .ifElse cond yes no _ _ => cond.callees ++ yes.callees ++ Stmt.calleesOption no
  | .switch cond cases _ => cond.callees ++ Case.calleesList cases
  | .whileLoop cond body _ => cond.callees ++ body.callees
  | .doLoop body cond _ => body.callees ++ cond.callees
  | .forLoop first cond step body _ =>
    Stmt.calleesOption first ++ Expr.calleesOption cond ++ Expr.calleesOption step ++ body.callees
  | .forEach range body _ => range.callees ++ body.callees
  | .tryCatch body handlers => body.callees ++ Handler.calleesList handlers
  | .ret value => Expr.calleesOption value
  | .coReturn value => Expr.calleesOption value
  | .breakOut => []
  | .continueOn => []
  | .skip => []

def Stmt.calleesList : List Stmt → List DeclId
  | [] => []
  | s :: rest => s.callees ++ Stmt.calleesList rest

def Stmt.calleesOption : Option Stmt → List DeclId
  | none => []
  | some s => s.callees

def Case.calleesList : List Case → List DeclId
  | [] => []
  | ⟨_, body⟩ :: rest => Stmt.calleesList body ++ Case.calleesList rest

def Handler.calleesList : List Handler → List DeclId
  | [] => []
  | ⟨_, body⟩ :: rest => body.callees ++ Handler.calleesList rest

end

def Decl.callees (d : Decl) : List DeclId :=
  Stmt.calleesOption d.body?

def Program.called (p : Program) : List DeclId :=
  p.decls.flatMap Decl.callees

end Lifeline
