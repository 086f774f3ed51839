import Lifeline.Source.Code

namespace Lifeline

structure Param where
  name : String
  type : String
  deriving DecidableEq, Repr

structure RecordInfo where
  isStruct : Bool
  isLambda : Bool
  parent : Option DeclId
  deriving DecidableEq, Repr

structure Function where
  owner : Option DeclId
  params : List Param
  returnType : String
  isStatic : Bool
  isConst : Bool
  isVirtual : Bool
  isConstructor : Bool
  isDestructor : Bool
  isOperator : Bool
  isCoroutine : Bool
  body : Option Stmt

inductive DeclKind
  | record (info : RecordInfo)
  | function (f : Function)

structure Decl where
  id : DeclId
  name : String
  namespaceName : String
  location : Option Location
  templateArgs : List String
  instantiatedFrom : Option DeclId
  annotations : List String
  kind : DeclKind

structure TranslationUnit where
  file : Path
  decls : List Decl

namespace Decl

def function? (d : Decl) : Option Function :=
  match d.kind with
  | .function f => some f
  | .record _ => none

def record? (d : Decl) : Option RecordInfo :=
  match d.kind with
  | .record r => some r
  | .function _ => none

def body? (d : Decl) : Option Stmt :=
  d.function?.bind (·.body)

def hasBody (d : Decl) : Bool :=
  d.body?.isSome

end Decl

end Lifeline
