import Lifeline.Fault

namespace Lifeline

inductive EntryKind
  | file
  | directory
  | other
  deriving DecidableEq, Repr

def Path.maxBytes : Nat := 4096

def Path.maxNameBytes : Nat := 256

def Path.check (p : Path) : Except IoFault Unit :=
  if p.text.toList.contains '\x00' then .error .nameHasNull
  else if p.text = "" then .error .notFound
  else if p.text.utf8ByteSize ≥ maxBytes then .error .nameTooLong
  else .ok ()

class Files (m : Type → Type) where
  workingDir : m Path
  kind? : Path → m (Option EntryKind)
  absolute? : Path → m (Option Path)
  read : Path → m (Except IoFault ByteArray)
  list : Path → m (Except IoFault (List (String × EntryKind)))
  createDir : Path → m (Except IoFault Unit)
  write : Path → String → m (Except IoFault Unit)

namespace Files

variable {m : Type → Type} [Monad m] [Files m]

def exists? (p : Path) : m Bool := do
  return (← kind? p).isSome

def isDir (p : Path) : m Bool := do
  return (← kind? p) == some .directory

def decode (bytes : ByteArray) : Except IoFault String :=
  match String.fromUTF8? bytes with
  | some text => .ok text
  | none => .error .notText

def readText (p : Path) : m (Except IoFault String) := do
  return (← read p).bind decode

def orDir (p : Path) : Except IoFault Unit → m (Except IoFault Unit)
  | .ok _ => return .ok ()
  | .error cause => do return if ← isDir p then .ok () else .error cause

def createFirst : List Path → m (Except IoFault Unit)
  | [] => return .ok ()
  | p :: above => do
    match ← createDir p with
    | .error .notFound =>
      match ← createFirst above with
      | .error cause => return .error cause
      | .ok _ => orDir p (← createDir p)
    | result => orDir p result

def createDirs (p : Path) : m (Except IoFault Unit) :=
  if p.text = "" then return .ok () else createFirst p.ancestry

end Files

end Lifeline
