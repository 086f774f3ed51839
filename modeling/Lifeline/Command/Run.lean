import Lifeline.Command.Basic
import Lifeline.Settings.Text
import Lifeline.Diagram.Draw
import Lifeline.Dump
import Lifeline.Text.Quoted

namespace Lifeline

inductive Failure
  | fault (cause : Fault)
  | noDumps
  | cannotCreate (dir : Path) (cause : IoFault)
  | cannotCreateOutput (dir : Path) (cause : IoFault)
  | alreadyThere (file : Path)
  | failedDiagrams (failed total : Nat)
  | unresolved (count : Nat)
  deriving DecidableEq, Repr

def Failure.message : Failure → String
  | .fault cause => cause.message
  | .noDumps => "No AST paths given and none configured"
  | .cannotCreate dir cause => s!"Failed to create {dir.text}: {cause.message}"
  | .cannotCreateOutput dir cause =>
    s!"Failed to create output directory {dir.text}: {cause.message}"
  | .alreadyThere file => s!"{file.text} already exists"
  | .failedDiagrams failed total => s!"{failed} of {total} diagrams failed"
  | .unresolved count => s!"{count} diagrams have unresolvable entry points"

abbrev Output := List String

namespace EntrySpec

def describe : EntrySpec → String
  | .function selector => "Function(" ++ Text.quoted selector ++ ")"
  | .file path => "TranslationUnit(" ++ Text.quotedPath path.text ++ ")"

end EntrySpec

namespace DiagramSettings

def describeLayout : Layout → String
  | .merged => "Merged"
  | .chains => "Chains"

def describe (name : String) (d : DiagramSettings) : Output :=
  [s!"{name} ({describeLayout d.layout})"] ++ d.startFrom.map
    (fun e => "  start_from: " ++ e.describe) ++ d.target.toList.map ("  to: " ++ ·)

end DiagramSettings

namespace Settings

def describe (s : Settings) : Output :=
  if s.diagrams.isEmpty then ["No diagrams configured"]
  else s.diagrams.flatMap fun (name, d) => d.describe name

def select (s : Settings) (names : List String) : Except Fault (List (String × DiagramSettings)) :=
  if names.isEmpty then .ok s.diagrams
  else names.mapM fun name =>
    match s.get? name with
    | some d => .ok (name, d)
    | none => .error (.settings (.unknownDiagram name))

def unresolvedCount (s : Settings) (p : Program) : Nat :=
  (s.diagrams.filter fun (_, d) => !(p.startsOf d).toBool).length

def fileName : String := "Seqwright.toml"

def fileNames : List Path := [⟨fileName⟩, ⟨"seqwright.toml"⟩, ⟨".seqwright.toml"⟩]

end Settings

namespace Command

variable {m : Type → Type} [Monad m] [Files m]

abbrev Running (m : Type → Type) := ExceptT Failure m

def orFault (e : Except Fault α) : Running m α :=
  match e with
  | .ok a => pure a
  | .error f => throw (.fault f)

def loadSettings (file : Path) : Running m Settings := do
  match ← (Files.readText file : m _) with
  | .ok text => orFault (Settings.ofText text)
  | .error cause => throw (.fault (.io cause))

def firstThere : List Path → m (Option Path)
  | [] => return none
  | p :: rest => do if ← Files.exists? p then return some p else firstThere rest

def findSettings (given : Option Path) : Running m Settings := do
  let candidates := match given with
    | some file => [file]
    | none => Settings.fileNames
  match ← (firstThere candidates : m _) with
  | some file => loadSettings file
  | none => return .initial

def runInit (dir : Option Path) : Running m Unit := do
  let dir ← match dir with
    | some dir => pure dir
    | none => (Files.workingDir : m _)
  match ← (Files.createDirs dir : m _) with
  | .error cause => throw (.cannotCreate dir cause)
  | .ok _ =>
    let file := dir.join ⟨Settings.fileName⟩
    if ← (Files.exists? file : m _) then throw (.alreadyThere file)
    let text ← orFault Settings.initial.toText
    match ← (Files.write file text : m _) with
    | .ok _ => return ()
    | .error cause => throw (.fault (.io cause))

def loadProgram (s : Settings) (dumps : List Path) : Running m Program := do
  let paths := if dumps.isEmpty then s.project.dumps else dumps
  if paths.isEmpty then throw .noDumps
  let loaded ← (Shelf.loadPaths {} paths : m _)
  orFault loaded.1

def writeDiagram (dir : Path) (d : Diagram) : List Format → m Bool
  | [] => return true
  | format :: rest => do
    let file := dir.join ⟨d.name ++ "." ++ format.extension⟩
    match ← Files.write file (format.render d) with
    | .ok _ => writeDiagram dir d rest
    | .error _ => return false

def generateOne (p : Program) (root : Option Path) (dir : Path) (formats : List Format)
    (selected : String × DiagramSettings) : m Bool := do
  match p.draw selected.1 selected.2 root with
  | .ok drawing => writeDiagram dir drawing.diagram formats
  | .error _ => return false

def runGenerate (s : Settings) (dumps : List Path) (outputDir : Option Path) (names : List String)
    (formats : List Format) : Running m Unit := do
  let dir := outputDir.getD s.project.outputDir
  let formats := if formats.isEmpty then s.formats else formats
  let selected ← orFault (s.select names)
  let p ← loadProgram s dumps
  match ← (Files.createDirs dir : m _) with
  | .error cause => throw (.cannotCreateOutput dir cause)
  | .ok _ =>
    let done ← (selected.mapM (generateOne p s.project.root dir formats) : m _)
    let failed := (done.filter (!·)).length
    if failed > 0 then throw (.failedDiagrams failed selected.length)

def runCheck (s : Settings) (dumps : List Path) : Running m Unit := do
  let s ← orFault s.validate
  let p ← loadProgram s dumps
  let count := s.unresolvedCount p
  if count > 0 then throw (.unresolved count)

def run (s : Settings) : Command → Running m Output
  | .init dir => do runInit dir; return []
  | .generate dumps outputDir names formats => do
    runGenerate s dumps outputDir names formats
    return []
  | .list => return s.describe
  | .check dumps => do runCheck s dumps; return []

end Command

def Invocation.run {m : Type → Type} [Monad m] [Files m] (i : Invocation) :
    ExceptT Failure m Output := do
  let s ← Command.findSettings i.settings
  i.command.run s

end Lifeline
