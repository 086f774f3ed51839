import Lifeline.Trace.Visit

namespace Lifeline

mutual

def Expr.callArgs : Expr → List (List String)
  | .call callee object args _ _ =>
    callee.callArgs ++ Expr.callArgsOption object ++ Expr.callArgsList args
  | .construct _ _ args _ _ => Expr.callArgsList args
  | .lambda _ _ => []
  | .coAwait operand _ _ => operand.callArgs
  | .coYield operand _ => operand.callArgs
  | .async _ callable args _ => callable.callArgs ++ Expr.callArgsList args
  | .declRef _ => []
  | .var _ => []
  | .assign _ value => value.callArgs
  | .conditional cond yes no _ => cond.callArgs ++ yes.callArgs ++ no.callArgs
  | .other children => Expr.callArgsList children

def Expr.callArgsList : List Expr → List (List String)
  | [] => []
  | e :: rest => e.callArgs ++ Expr.callArgsList rest

def Expr.callArgsOption : Option Expr → List (List String)
  | none => []
  | some e => e.callArgs

def Callee.callArgs : Callee → List (List String)
  | .decl _ args _ => [args]
  | .expr e => e.callArgs
  | .var _ => []
  | .unresolved _ _ => []

end

mutual

def Stmt.callArgs : Stmt → List (List String)
  | .block body => Stmt.callArgsList body
  | .expr e => e.callArgs
  | .declare _ value => Expr.callArgsOption value
  | .ifElse cond yes no _ _ => cond.callArgs ++ yes.callArgs ++ Stmt.callArgsOption no
  | .switch cond cases _ => cond.callArgs ++ Case.callArgsList cases
  | .whileLoop cond body _ => cond.callArgs ++ body.callArgs
  | .doLoop body cond _ => body.callArgs ++ cond.callArgs
  | .forLoop first cond step body _ =>
    Stmt.callArgsOption first ++ Expr.callArgsOption cond ++ Expr.callArgsOption step ++
      body.callArgs
  | .forEach range body _ => range.callArgs ++ body.callArgs
  | .tryCatch body handlers => body.callArgs ++ Handler.callArgsList handlers
  | .ret value => Expr.callArgsOption value
  | .coReturn value => Expr.callArgsOption value
  | .breakOut => []
  | .continueOn => []
  | .skip => []

def Stmt.callArgsList : List Stmt → List (List String)
  | [] => []
  | s :: rest => s.callArgs ++ Stmt.callArgsList rest

def Stmt.callArgsOption : Option Stmt → List (List String)
  | none => []
  | some s => s.callArgs

def Case.callArgsList : List Case → List (List String)
  | [] => []
  | ⟨_, body⟩ :: rest => Stmt.callArgsList body ++ Case.callArgsList rest

def Handler.callArgsList : List Handler → List (List String)
  | [] => []
  | ⟨_, body⟩ :: rest => body.callArgs ++ Handler.callArgsList rest

end

namespace Program

def callArgs (p : Program) : List (List String) :=
  ((p.decls.flatMap fun d => Stmt.callArgsOption d.body?).filter (!·.isEmpty)).eraseDups

/-- How many calls can be on a path: every body once plainly, and once for each list of template
arguments. -/
def pathBound (p : Program) : Nat :=
  (p.decls.filter (·.hasBody)).length * (1 + p.callArgs.length)

end Program

namespace Tracer

/-- Visits the body of a function, with room for so many bodies inside one another. -/
def enterAt (t : Tracer) : (room : Nat) → Enter
  | 0, _, _, _, _ => pure ()
  | room + 1, a, f, body, operation => t.visitBody (t.enterAt room) a f body operation

def traceWith (t : Tracer) (enter : Enter) (entry : Decl) : Visit Unit := do
  match entry.function? with
  | none => throw (.malformed (.entryNotCallable entry.name))
  | some f =>
    match f.body with
    | none => throw (.malformed (.entryWithoutBody entry.name))
    | some body =>
      let participant ← Visit.cast (t.casting.intern (.decl entry))
      if participant.isTombstone then throw (.missingEntry (.excluded entry.name))
      modify fun s => { s with
        interaction :=
          { s.interaction with entryPoints := s.interaction.entryPoints ++ [participant] } }
      let operation := (← get).roster.operation participant
      let path : CallPath := { maxDepth := t.options.maxDepth }
      match path.enter (participant, operation) with
      | .entered path =>
        Visit.withScopes .empty (enter { path, caller := participant } f body operation)
      | .recursive => pure ()
      | .tooDeep => pure ()

def trace (t : Tracer) (entry : Decl) : Visit Unit :=
  t.traceWith (t.enterAt (t.casting.program.pathBound + 1)) entry

def traceAll (t : Tracer) (entries : List Decl) (s : Trace) : Trace :=
  entries.foldl (fun s entry => (t.trace entry s).2) s

end Tracer

end Lifeline
