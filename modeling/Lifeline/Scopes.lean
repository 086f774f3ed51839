import Lifeline.Source.Decl

namespace Lifeline

inductive Value
  | lambda (operator : DeclId) (captured : List (String × Value))
  | function (decl : DeclId)
  | unknown
  deriving Inhabited

def Value.isCallable : Value → Bool
  | .unknown => false
  | _ => true

abbrev Bindings := List (String × Value)

namespace Bindings

def get? (b : Bindings) (name : String) : Option Value :=
  b.lookup name

def set (name : String) (value : Value) : Bindings → Bindings
  | [] => [(name, value)]
  | (n, v) :: rest => if n = name then (n, value) :: rest else (n, v) :: set name value rest

end Bindings

structure Scopes where
  inner : Bindings
  outer : List Bindings

namespace Scopes

def empty : Scopes := ⟨[], []⟩

def ofCaptures (captured : Bindings) : Scopes := ⟨[], [captured]⟩

def toList (s : Scopes) : List Bindings :=
  s.inner :: s.outer

def depth (s : Scopes) : Nat :=
  s.toList.length

def push (s : Scopes) : Scopes :=
  ⟨[], s.toList⟩

def pop (s : Scopes) : Scopes :=
  match s.outer with
  | [] => s
  | b :: rest => ⟨b, rest⟩

def bind (s : Scopes) (name : String) (value : Value) : Scopes :=
  { s with inner := s.inner.set name value }

def assignIn? (name : String) (value : Value) : List Bindings → Option (List Bindings)
  | [] => none
  | b :: rest =>
    if (b.get? name).isSome then some (b.set name value :: rest)
    else (assignIn? name value rest).map (b :: ·)

/-- Assigns where the name is declared, and declares it in the innermost scope if it is not. -/
def assign (s : Scopes) (name : String) (value : Value) : Scopes :=
  match assignIn? name value s.toList with
  | some (b :: rest) => ⟨b, rest⟩
  | _ => s.bind name value

def get? (s : Scopes) (name : String) : Option Value :=
  s.toList.findSome? (·.get? name)

def snapshot (s : Scopes) : Bindings :=
  s.toList.foldr (fun b flat => b.foldl (fun flat (n, v) => flat.set n v) flat) []

/-- Binds a parameter to its argument. An argument that is no known callable binds nothing. -/
def bindParam (s : Scopes) (param : Param) (value : Value) : Scopes :=
  if !param.name.isEmpty && value.isCallable then s.bind param.name value else s

def forBody (captured : Option Bindings) (params : List Param) (args : List Value) : Scopes :=
  let base := match captured with
    | some c => ofCaptures c
    | none => empty
  (params.zip args).foldl (fun s (param, value) => s.bindParam param value) base

end Scopes

end Lifeline
