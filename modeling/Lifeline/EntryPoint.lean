import Lifeline.CallGraph
import Lifeline.Naming

namespace Lifeline

inductive EntrySpec
  | function (selector : String)
  | file (path : Path)
  deriving DecidableEq, Repr

namespace Program

def isNamed (p : Program) (selector : String) (d : Decl) : Except Fault Bool :=
  match d.function? with
  | none => .ok false
  | some f => do
    let names ← Naming.callableNames p d f d.templateArgs
    return Naming.selects selector names.qualifiedName names.fullName

def named (p : Program) (selector : String) : Except Fault (List Decl) :=
  p.decls.filterM (p.isNamed selector)

/-- The roots among the candidates, or all if there are none, as within a cycle. -/
def rootsOrAll (isRoot : Decl → Bool) (candidates : List Decl) : List Decl :=
  let roots := candidates.filter isRoot
  if roots.isEmpty then candidates else roots

/-- Has a body of its own, unlike a closure, whose body belongs to the code around it. -/
def canStart (p : Program) (d : Decl) : Bool :=
  d.hasBody && !p.isClosureOperator d

def definedNamed (p : Program) (selector : String) : Except Fault (List Decl) := do
  let found ← p.named selector
  if found.isEmpty then throw (.missingEntry (.noMatch selector))
  let defined := found.filter (·.hasBody)
  if defined.isEmpty then throw (.malformed (.undefinedEntry selector))
  return defined

def isIn (file : Path) (d : Decl) : Bool :=
  d.location.any (·.file.endsWith file)

def rootsIn (p : Program) (file : Path) : Except Fault (List Decl) := do
  let defined := p.decls.filter fun d => p.canStart d && isIn file d
  if defined.isEmpty then throw (.missingEntry (.emptyFile file))
  return rootsOrAll (fun d => !p.called.contains d.id) defined

def selected (p : Program) : EntrySpec → Except Fault (List Decl)
  | .function selector => p.definedNamed selector
  | .file path => p.rootsIn path

def entryPoints (p : Program) (specs : List EntrySpec) : Except Fault (List Decl) := do
  return distinctBy Decl.id (← specs.mapM p.selected).flatten

def callersReaching (p : Program) (selector : String) : Except Fault (List Decl) := do
  let targets := (← p.named selector).map (·.id)
  if targets.isEmpty then throw (.missingEntry (.noMatch selector))
  let graph := p.callGraph
  let reaching := graph.reaching targets
  let candidates := p.decls.filter fun d =>
    reaching.contains d.id && !targets.contains d.id && p.canStart d
  if candidates.isEmpty then throw (.missingEntry (.noCallers selector))
  return rootsOrAll (fun d => !graph.isCalled d.id) candidates

end Program

end Lifeline
