import Lifeline.Filter
import Lifeline.Naming
import Lifeline.Sha256

namespace Lifeline

structure Roster where
  participants : Array Participant := #[]
  /-- What became of declarations with their call-site arguments. -/
  known : List ((DeclId × List String) × ParticipantId) := []

namespace Roster

def size (r : Roster) : Nat :=
  r.participants.size

def get? (r : Roster) (id : ParticipantId) : Option Participant :=
  r.participants.find? (·.id == id)

def uses (r : Roster) (id : ParticipantId) : Bool :=
  r.participants.any (·.id == id)

def isVisible (r : Roster) (id : ParticipantId) : Bool :=
  !id.isTombstone && r.uses id

def visible? (r : Roster) (id : ParticipantId) : Option ParticipantId :=
  if r.isVisible id then some id else none

def operation (r : Roster) (id : ParticipantId) : String :=
  ((r.get? id).map (·.operation)).getD ""

def find (r : Roster) (selector : String) : List ParticipantId :=
  (r.participants.toList.filter fun p => Naming.selects selector p.qualifiedName p.fullName).map
    (·.id)

def remembered? (r : Roster) (id : DeclId) (args : List String) : Option ParticipantId :=
  r.known.lookup (id, args)

def remember (r : Roster) (id : DeclId) (args : List String) (p : ParticipantId) : Roster :=
  { r with known := ((id, args), p) :: r.known }

/-- The first free id from a number on, in cyclic order. The tombstone is never free. -/
def freeId (r : Roster) : (tries : Nat) → UInt64 → ParticipantId
  | 0, n => ⟨n⟩
  | tries + 1, n => if n == 0 || r.uses ⟨n⟩ then r.freeId tries (n + 1) else ⟨n⟩

def insert (r : Roster) (seed : String → UInt64) (p : Participant) : ParticipantId × Roster :=
  match r.participants.find? (·.key == p.key) with
  | some q => (q.id, r)
  | none =>
    let id := r.freeId (r.size + 2) (seed p.key)
    (id, { r with participants := r.participants.push { p with id } })

end Roster

inductive Entity
  | decl (d : Decl)
  | instantiation (d : Decl) (templateArgs : List String)
  | coroutineState (coroutine : ParticipantId)
  | external (name : String)

structure Casting where
  program : Program
  filter : Filter
  mergeFiles : Bool
  /-- The number from which the id of a key is looked for. -/
  seed : String → UInt64 := fun key => (Sha256.digest key.toUTF8).leading

/-- Changes the roster, also when it fails. -/
abbrev Cast := ExceptT Fault (StateM Roster)

namespace Casting

def insert (c : Casting) (p : Participant) : Cast ParticipantId :=
  modifyGet fun r => r.insert c.seed p

def draft (kind : ParticipantKind) (qualifiedName fullName operation namespaceName : String) :
    Participant :=
  { id := .tombstone, kind, qualifiedName, fullName, operation, namespaceName,
    location := none, owner := none,
    instantiatedFrom := none, returnType := none, isStatic := false }

def visible? (id : ParticipantId) : Cast (Option ParticipantId) := do
  return (← get).visible? id

def internFile (c : Casting) (file : Path) : Cast ParticipantId :=
  c.insert (draft .file file.text file.text "" "")

def origin? (c : Casting) (intern : Decl → List String → Cast ParticipantId) (d : Decl) :
    Cast (Option ParticipantId) := do
  match d.instantiatedFrom with
  | none => return none
  | some primary => visible? (← intern (← c.program.decl primary) [])

def internRecord (c : Casting) (intern : Decl → List String → Cast ParticipantId) (d : Decl)
    (r : RecordInfo) : Cast ParticipantId := do
  let name ← Naming.recordName c.program d
  let kind := if r.isLambda then ParticipantKind.lambda else .cls
  let candidate : Candidate := {
    kind, qualifiedName := name, namespaceName := d.namespaceName, file := d.location.map (·.file),
    annotations := d.annotations }
  if !c.filter candidate then return .tombstone
  let instantiatedFrom ← c.origin? intern d
  let operation := Naming.templated d.name d.templateArgs ++ "()"
  c.insert { draft kind name name operation d.namespaceName with
    location := d.location, instantiatedFrom }

def ownerAnnotations (c : Casting) (f : Function) : Cast (List String) := do
  match f.owner with
  | none => return []
  | some owner => return (← c.program.decl owner).annotations

/-- The lifeline of a method is its class, that of a free function may be its file. -/
def owner? (c : Casting) (intern : Decl → List String → Cast ParticipantId) (d : Decl)
    (names : Naming.CallableNames) : Cast (Option ParticipantId) := do
  match names.owner with
  | some ownerId => return some (← intern (← c.program.decl ownerId) [])
  | none =>
    match d.location with
    | some l =>
      if names.kind == .function && c.mergeFiles then return some (← c.internFile l.file)
      else return none
    | none => return none

def primary? (c : Casting) (intern : Decl → List String → Cast ParticipantId) (d : Decl)
    (args : List String) : Cast (Option ParticipantId) := do
  if args.isEmpty then c.origin? intern d else visible? (← intern d [])

def internCallable (c : Casting) (intern : Decl → List String → Cast ParticipantId) (d : Decl)
    (f : Function) (args : List String) : Cast ParticipantId := do
  let names ← Naming.callableNames c.program d f (if args.isEmpty then d.templateArgs else args)
  let annotations := d.annotations ++ (← c.ownerAnnotations f)
  let candidate : Candidate := {
    kind := names.kind, qualifiedName := names.qualifiedName, namespaceName := names.namespaceName,
    file := d.location.map (·.file), annotations }
  if !c.filter candidate then return .tombstone
  let owner ← c.owner? intern d names
  if owner == some .tombstone then return .tombstone
  let instantiatedFrom ← c.primary? intern d args
  c.insert {
    draft names.kind names.qualifiedName names.fullName names.operation names.namespaceName with
    location := d.location, owner, instantiatedFrom, returnType := some f.returnType,
    isStatic := f.isStatic }

def internNew (c : Casting) (intern : Decl → List String → Cast ParticipantId) (d : Decl)
    (args : List String) : Cast ParticipantId :=
  match d.kind with
  | .record r => c.internRecord intern d r
  | .function f => c.internCallable intern d f args

def internOnce (c : Casting) (intern : Decl → List String → Cast ParticipantId) (d : Decl)
    (args : List String) : Cast ParticipantId := do
  match (← get).remembered? d.id args with
  | some id => return id
  | none =>
    let id ← c.internNew intern d args
    modify (·.remember d.id args id)
    return id

/-- `room` is how many declarations the chain of owners and templates may still pass. -/
def internAt (c : Casting) : (room : Nat) → Decl → List String → Cast ParticipantId
  | 0, d, _ => throw (.malformed (.endlessOrigin d.id))
  | room + 1, d, args => c.internOnce (c.internAt room) d args

def internDecl (c : Casting) (d : Decl) (args : List String) : Cast ParticipantId :=
  c.internAt (c.program.size + 2) d args

def internCoroutineState (c : Casting) (coroutine : ParticipantId) : Cast ParticipantId := do
  match (← get).get? coroutine with
  | none => throw (.malformed (.unknownCoroutine coroutine))
  | some base =>
    let name := base.fullName ++ "::<coroutine state>"
    c.insert { draft .coroutineState name name "co_await" base.namespaceName with
      location := base.location }

def internExternal (c : Casting) (name : String) : Cast ParticipantId := do
  let (space, short) := match Text.splitLast? "::".toList name.toList with
    | some (before, after) => (String.ofList before, String.ofList after)
    | none => ("", name)
  let candidate : Candidate := {
    kind := .external, qualifiedName := name, namespaceName := space, file := none,
    annotations := [] }
  if !c.filter candidate then return .tombstone
  c.insert (draft .external name name (short ++ "()") space)

def intern (c : Casting) : Entity → Cast ParticipantId
  | .decl d => c.internDecl d []
  | .instantiation d args => c.internDecl d (if d.templateArgs.isEmpty then args else [])
  | .coroutineState coroutine => c.internCoroutineState coroutine
  | .external name => c.internExternal name

end Casting

end Lifeline
