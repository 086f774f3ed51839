import Lifeline.Source.Decl
import Lifeline.Fault

namespace Lifeline

/-- Declarations in the order in which their ids first occurred. -/
structure Program where
  decls : List Decl

namespace Program

def empty : Program := ⟨[]⟩

/-- A later copy of a declaration takes the place of an earlier one only if it brings the first
body. -/
def insertDecl (d : Decl) : List Decl → List Decl
  | [] => [d]
  | e :: rest =>
    if e.id = d.id then (if !e.hasBody && d.hasBody then d else e) :: rest
    else e :: insertDecl d rest

def insert (p : Program) (d : Decl) : Program :=
  ⟨insertDecl d p.decls⟩

def ofUnits (units : List TranslationUnit) : Program :=
  (units.flatMap (·.decls)).foldl insert empty

def size (p : Program) : Nat :=
  p.decls.length

def get? (p : Program) (id : DeclId) : Option Decl :=
  p.decls.find? (·.id == id)

def decl (p : Program) (id : DeclId) : Except Fault Decl :=
  match p.get? id with
  | some d => .ok d
  | none => .error (.malformed (.unknownDecl id))

def function (p : Program) (id : DeclId) : Except Fault (Decl × Function) := do
  let d ← p.decl id
  match d.function? with
  | some f => return (d, f)
  | none => .error (.malformed (.notCallable id d.name))

end Program

end Lifeline
