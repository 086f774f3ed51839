import Lifeline.Pattern.Meaning
import Lifeline.Participant
import Lifeline.Fault
import Lifeline.Text.Search

namespace Lifeline

structure Candidate where
  kind : ParticipantKind
  qualifiedName : String
  namespaceName : String
  file : Option Path
  annotations : List String

abbrev Filter := Candidate → Bool

structure FilterRules where
  namespaces : List String := []
  paths : List Path := []
  elements : List String := []
  deriving DecidableEq, Repr

def FilterRules.isEmpty (r : FilterRules) : Bool :=
  r.namespaces.isEmpty && r.paths.isEmpty && r.elements.isEmpty

structure ReadyRules where
  namespaces : List String
  paths : List Path
  elements : List Pattern

/-- A file as filters see it: the components of its path below the root. -/
abbrev FilterPath := List Path.Component

namespace FilterRules

def readElement (text : String) : Except Fault Pattern :=
  match Pattern.ofElement? text with
  | some p => .ok p
  | none => .error (.pattern text)

def ready (r : FilterRules) : Except Fault ReadyRules := do
  return { namespaces := r.namespaces, paths := r.paths, elements := ← r.elements.mapM readElement }

end FilterRules

namespace ReadyRules

def isEmpty (r : ReadyRules) : Bool :=
  r.namespaces.isEmpty && r.paths.isEmpty && r.elements.isEmpty

def inNamespace (name space : String) : Bool :=
  name == space || (space ++ "::").toList.isPrefixOf name.toList

def covers (r : ReadyRules) (c : Candidate) (file : Option FilterPath) : Bool :=
  r.namespaces.any (inNamespace c.namespaceName) ||
    file.any (fun f => r.paths.any fun p => p.components.isPrefixOf f) ||
    r.elements.any (·.isMatch c.qualifiedName)

end ReadyRules

namespace Filter

def isSkipped (c : Candidate) : Bool :=
  c.annotations.any fun a => Text.occursIn "uml\x7bskip\x7d".toList a.toList

def everything : Filter :=
  fun c => !isSkipped c

def relative (root : Option Path) (file : Path) : FilterPath :=
  match root with
  | none => file.components
  | some root => (file.below? root).getD file.components

/-- Lets in what the first rules cover, or all if there are none, but nothing that the second rules
cover. -/
def ofReady (included excluded : ReadyRules) (root : Option Path) : Filter := fun c =>
  let file := c.file.map (relative root)
  !isSkipped c && (included.isEmpty || included.covers c file) && !excluded.covers c file

def ofRules (included excluded : FilterRules) (root : Option Path) : Except Fault Filter := do
  let i ← included.ready
  let e ← excluded.ready
  return ofReady i e root

end Filter

end Lifeline
