import Lifeline.Trace.Run
import Lifeline.Interaction.Chain

namespace Lifeline

inductive Layout
  | merged
  | chains
  deriving DecidableEq, Repr

namespace Tracer

def interaction (t : Tracer) (entries : List Decl) : Cast Interaction := fun roster =>
  match (entries.forM t.trace : Visit Unit) { roster } with
  | (.ok _, s) => (.ok s.interaction, s.roster)
  | (.error f, s) => (.error f, s.roster)

def merged (t : Tracer) (entries : List Decl) : Cast Interaction := do
  let s ← t.interaction entries
  let roster ← get
  let names := (s.entryPoints.filterMap roster.get?).map (·.fullName)
  return { s with label := ", ".intercalate names }

def chainsFrom (t : Tracer) (target : Option String) (entry : Decl) : Cast (List Interaction) := do
  let s ← t.interaction [entry]
  let roster ← get
  let label := ((s.entryPoints.head?.bind roster.get?).map (·.fullName)).getD entry.name
  match target with
  | none => return [{ s with label }]
  | some selector => return { s with label }.chains (roster.find selector)

def interactions (t : Tracer) (layout : Layout) (target : Option String) (entries : List Decl) :
    Cast (List Interaction) := do
  match layout with
  | .merged => return [← t.merged entries]
  | .chains => return (← entries.mapM (t.chainsFrom target)).flatten

end Tracer

end Lifeline
