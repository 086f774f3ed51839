import Lifeline.Program.Callees
import Lifeline.Distinct

namespace Lifeline

structure CallGraph where
  edges : List (DeclId × DeclId)

namespace CallGraph

def callers (g : CallGraph) (ids : List DeclId) : List DeclId :=
  distinctBy id ((g.edges.filter fun e => ids.contains e.2).map (·.1))

def isCalled (g : CallGraph) (id : DeclId) : Bool :=
  g.edges.any (·.2 == id)

def close (g : CallGraph) : (rounds : Nat) → List DeclId → List DeclId
  | 0, reached => reached
  | rounds + 1, reached =>
    let fresh := (g.callers reached).filter fun id => !reached.contains id
    if fresh.isEmpty then reached else g.close rounds (reached ++ fresh)

/-- All that call one of these, through any number of calls but at least one. Every round adds a
caller, so there are no more rounds than edges. -/
def reaching (g : CallGraph) (ids : List DeclId) : List DeclId :=
  g.close g.edges.length (g.callers ids)

end CallGraph

namespace Program

def closure? (p : Program) (d : Decl) : Option RecordInfo := do
  let f ← d.function?
  let owner ← p.get? (← f.owner)
  let r ← owner.record?
  if r.isLambda then some r else none

def isClosureOperator (p : Program) (d : Decl) : Bool :=
  (p.closure? d).isSome

def edgesOf (p : Program) (d : Decl) : List (DeclId × DeclId) :=
  d.callees.map (d.id, ·) ++ ((p.closure? d).bind (·.parent)).toList.map (·, d.id)

def callGraph (p : Program) : CallGraph :=
  ⟨p.decls.flatMap p.edgesOf⟩

end Program

end Lifeline
