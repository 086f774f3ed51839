import Lifeline.Settings.Basic

namespace Lifeline

structure Drawing where
  diagram : Diagram
  entryCount : Nat

def Fault.inDiagram (name : String) : Fault → Fault
  | .diagram inner cause => .diagram inner cause
  | f => .diagram name f

namespace Program

def startsOf (p : Program) (s : DiagramSettings) : Except Fault (List Decl) :=
  match s.target, s.startFrom with
  | some selector, [] => p.callersReaching selector
  | _, specs => p.entryPoints specs

def drawPlain (p : Program) (name : String) (s : DiagramSettings) (root : Option Path) :
    Except Fault Drawing := do
  let filter ← Filter.ofRules s.included s.excluded root
  let entries ← p.startsOf s
  let tracer : Tracer :=
    { casting := { program := p, filter, mergeFiles := s.mergeFiles }, options := s.traceOptions }
  match tracer.interactions s.effectiveLayout s.target entries {} with
  | (.ok interactions, roster) =>
    return { diagram := .assemble name roster interactions, entryCount := entries.length }
  | (.error f, _) => throw f

def draw (p : Program) (name : String) (s : DiagramSettings) (root : Option Path) :
    Except Fault Drawing :=
  match p.drawPlain name s root with
  | .ok d => .ok d
  | .error f => .error (f.inDiagram name)

end Program

end Lifeline
