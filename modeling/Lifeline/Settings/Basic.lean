import Lifeline.Diagram.Format
import Lifeline.EntryPoint
import Lifeline.Layout

namespace Lifeline

structure DiagramSettings where
  layout : Layout := .merged
  target : Option String := none
  returnMessages : Bool := false
  conditionText : Bool := true
  comments : Bool := false
  mergeFiles : Bool := false
  inlineLambdas : Bool := false
  unresolved : UnresolvedPolicy := .elide
  maxDepth : Option UInt64 := none
  startFrom : List EntrySpec := []
  included : FilterRules := {}
  excluded : FilterRules := {}
  deriving DecidableEq, Repr

structure ProjectSettings where
  name : String
  dumps : List Path
  outputDir : Path
  /-- The directory that filters take paths from. -/
  root : Option Path
  deriving DecidableEq, Repr

structure Settings where
  project : ProjectSettings
  formats : List Format
  diagrams : List (String × DiagramSettings)
  deriving DecidableEq, Repr

namespace DiagramSettings

def effectiveLayout (s : DiagramSettings) : Layout :=
  if s.startFrom.isEmpty && s.target.isSome then .chains else s.layout

def traceOptions (s : DiagramSettings) : TraceOptions where
  returnMessages := s.returnMessages
  conditionText := s.conditionText
  comments := s.comments
  inlineLambdas := s.inlineLambdas
  unresolved := s.unresolved
  maxDepth := s.maxDepth.map UInt64.toNat

def fault? (s : DiagramSettings) (name : String) : Option BadSettings :=
  if s.startFrom.isEmpty && s.target.isNone then some (.nothingToDraw name)
  else if s.target.isSome && s.effectiveLayout != .chains then some (.targetOutsideChains name)
  else if s.maxDepth = some 0 then some (.noDepth name)
  else none

end DiagramSettings

namespace Settings

def insertDiagram (name : String) (d : DiagramSettings) :
    List (String × DiagramSettings) → List (String × DiagramSettings)
  | [] => [(name, d)]
  | (n, e) :: rest =>
    if name < n then (name, d) :: (n, e) :: rest
    else if name = n then (name, d) :: rest
    else (n, e) :: insertDiagram name d rest

def get? (s : Settings) (name : String) : Option DiagramSettings :=
  s.diagrams.lookup name

def fault? (s : Settings) : Option BadSettings :=
  s.diagrams.findSome? fun (name, d) => d.fault? name

def validate (s : Settings) : Except Fault Settings :=
  match s.fault? with
  | none => .ok s
  | some cause => .error (.settings cause)

def initial : Settings where
  project :=
    { name := "Unnamed Project", dumps := [⟨"build/ast"⟩],
      outputDir := ⟨"docs/diagrams"⟩, root := none }
  formats := [.plantUml]
  diagrams :=
    [("main_sequence", { startFrom := [.function "main"], excluded := { namespaces := ["std"] } })]

end Settings

end Lifeline
