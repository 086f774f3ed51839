import Lifeline.Source.Location

namespace Lifeline

abbrev DeclId := UInt64

inductive Dispatch
  | static
  | virtual
  deriving DecidableEq, Repr

mutual

inductive Stmt
  | block (body : List Stmt)
  | expr (e : Expr)
  | declare (name : String) (value : Option Expr)
  | ifElse (cond : Expr) (yes : Stmt) (no : Option Stmt)
    (atCompileTime : Bool) (text : Option String)
  | switch (cond : Expr) (cases : List Case) (text : Option String)
  | whileLoop (cond : Expr) (body : Stmt) (text : Option String)
  | doLoop (body : Stmt) (cond : Expr) (text : Option String)
  | forLoop (first : Option Stmt) (cond : Option Expr) (step : Option Expr) (body : Stmt)
      (text : Option String)
  | forEach (range : Expr) (body : Stmt) (text : Option String)
  | tryCatch (body : Stmt) (handlers : List Handler)
  | ret (value : Option Expr)
  | coReturn (value : Option Expr)
  | breakOut
  | continueOn
  | skip

inductive Case
  | mk (label : Option String) (body : List Stmt)

inductive Handler
  | mk (exception : Option String) (body : Stmt)

inductive Expr
  | call (callee : Callee) (object : Option Expr) (args : List Expr) (location : Option Location)
      (comment : Option String)
  | construct (cls : DeclId) (ctor : Option DeclId) (args : List Expr) (location : Option Location)
      (comment : Option String)
  | lambda (operator : DeclId) (location : Option Location)
  | coAwait (operand : Expr) (awaiter : Option DeclId) (location : Option Location)
  | coYield (operand : Expr) (location : Option Location)
  | async (launcher : String) (callable : Expr) (args : List Expr) (location : Option Location)
  | declRef (decl : DeclId)
  | var (name : String)
  | assign (target : String) (value : Expr)
  | conditional (cond yes no : Expr) (text : Option String)
  | other (children : List Expr)

inductive Callee
  | decl (id : DeclId) (templateArgs : List String) (dispatch : Dispatch)
  | var (name : String)
  | expr (e : Expr)
  | unresolved (name : String) (template : Option DeclId)

end

instance : Inhabited Stmt := ⟨.skip⟩

instance : Inhabited Expr := ⟨.other []⟩

end Lifeline
