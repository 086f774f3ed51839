import Lifeline.Files.Walk
import Lifeline.Source.Encoding
import Lifeline.Json.Reader
import Lifeline.Program.Basic
import Lifeline.Sha256

namespace Lifeline

structure Dump where
  path : Path
  text : String

abbrev Source := Except Fault Dump

namespace Dump

def maxNesting : Nat := 127

def maxBytes : Nat := 256 * 1024 * 1024

def isOversized (d : Dump) : Bool :=
  d.text.utf8ByteSize > maxBytes

def unit (d : Dump) : Except Fault TranslationUnit :=
  match (Json.parse? maxNesting d.text).bind TranslationUnit.ofJson? with
  | some u => .ok u
  | none => .error (.malformed (.unreadable d.path))

def digest (d : Dump) : Sha256 :=
  Sha256.digest d.text.toUTF8

end Dump

/-- The digests of the texts seen so far. -/
structure Shelf where
  seen : List Sha256 := []

namespace Shelf

/-- The unit of a dump, unless its text was seen before. The text counts as seen even if it holds no
unit, but not if it is refused for its size. -/
def load (s : Shelf) (d : Dump) : Except Fault (Option TranslationUnit) × Shelf :=
  if d.isOversized then (.error (.oversized d.path), s)
  else if s.seen.contains d.digest then (.ok none, s)
  else (d.unit.map some, { seen := d.digest :: s.seen })

def loadSource (s : Shelf) : Source → Except Fault (Option TranslationUnit) × Shelf
  | .error f => (.error f, s)
  | .ok d => s.load d

def loadAll (s : Shelf) : List Source → Except Fault (List TranslationUnit) × Shelf
  | [] => (.ok [], s)
  | source :: rest =>
    match s.loadSource source with
    | (.error f, s) => (.error f, s)
    | (.ok unit, s) =>
      match s.loadAll rest with
      | (.error f, s) => (.error f, s)
      | (.ok units, s) => (.ok (unit.toList ++ units), s)

end Shelf

namespace Files

variable {m : Type → Type} [Monad m] [Files m]

def source (p : Path) : m Source := do
  match ← readText p with
  | .ok text => return .ok { path := p, text }
  | .error cause => return .error (.io cause)

def sourcesBelow (dir : Path) : m (List Source) := do
  match ← (dumpsBelow dir).run with
  | .ok paths => paths.mapM source
  | .error f => return [.error f]

def sourcesAt (p : Path) : m (List Source) := do
  if ← isDir p then sourcesBelow p else return [← source p]

def sources (paths : List Path) : m (List Source) := do
  return (← paths.mapM sourcesAt).flatten

end Files

def Shelf.loadPaths {m : Type → Type} [Monad m] [Files m] (s : Shelf) (paths : List Path) :
    m (Except Fault Program × Shelf) := do
  let loaded := s.loadAll (← Files.sources paths)
  return (loaded.1.map Program.ofUnits, loaded.2)

end Lifeline
