import Lifeline.Program.Basic
import Lifeline.Text.White

namespace Lifeline.Naming

def maxScopeDepth : Nat := 64

def templated (name : String) (args : List String) : String :=
  if args.isEmpty then name else name ++ "<" ++ ",".intercalate args ++ ">"

def joinScope (scope name : String) : String :=
  if scope.isEmpty then name else scope ++ "::" ++ name

def signature (f : Function) : String :=
  "(" ++ ",".intercalate (f.params.map (·.type)) ++ ")" ++ if f.isConst then " const" else ""

def position (d : Decl) : String :=
  match d.location with
  | some l => s!"{l.line.toNat}:{l.column.toNat}"
  | none => s!"decl{d.id.toNat}"

def localName (d : Decl) (r : RecordInfo) : String :=
  if r.isLambda then "lambda@" ++ position d
  else if d.name.isEmpty then "(anonymous@" ++ position d ++ ")"
  else templated d.name d.templateArgs

structure CallableNames where
  kind : ParticipantKind
  qualifiedName : String
  fullName : String
  operation : String
  namespaceName : String
  owner : Option DeclId
  deriving DecidableEq, Repr

/-- The names of a callable with these template arguments, given the names of records. A closure is
its own lifeline, so its call operator goes by the name of the closure. -/
def callableNamesWith (recordName : Decl → Except Fault String) (p : Program) (d : Decl)
    (f : Function) (templateArgs : List String) : Except Fault CallableNames := do
  let name := templated d.name templateArgs
  let operation := name ++ signature f
  match f.owner with
  | none =>
    let qualifiedName := joinScope d.namespaceName name
    return {
      kind := .function, qualifiedName, fullName := qualifiedName ++ signature f, operation,
      namespaceName := d.namespaceName, owner := none }
  | some ownerId =>
    let owner ← p.decl ownerId
    match owner.record? with
    | none => throw (.malformed (.ownerNotRecord ownerId d.name))
    | some r =>
      let ownerName ← recordName owner
      let namespaceName := if d.namespaceName.isEmpty then owner.namespaceName else d.namespaceName
      if r.isLambda then
        return {
          kind := .lambda, qualifiedName := ownerName, fullName := ownerName, operation,
          namespaceName, owner := none }
      else
        let qualifiedName := joinScope ownerName name
        return {
          kind := .method, qualifiedName, fullName := qualifiedName ++ signature f, operation,
          namespaceName, owner := some ownerId }

def endless (d : Decl) : Except Fault String :=
  .error (.malformed (.endlessScope d.id))

/-- The qualified name of a record; `room` is how many declarations the scope chain may still pass,
this one included. -/
def recordNameAt (p : Program) : (room : Nat) → Decl → Except Fault String
  | 0, d => endless d
  | room + 1, d => do
    match d.record? with
    | none => throw (.malformed (.notRecord d.id))
    | some r =>
      let scope ← match r.parent with
        | none => pure d.namespaceName
        | some parentId => do
          let parent ← p.decl parentId
          match parent.kind with
          | .record _ => recordNameAt p room parent
          | .function f =>
            let ownerName := match room with
              | 0 => endless
              | room + 1 => recordNameAt p room
            pure (← callableNamesWith ownerName p parent f parent.templateArgs).fullName
      return joinScope scope (localName d r)

def recordName (p : Program) (d : Decl) : Except Fault String :=
  recordNameAt p (maxScopeDepth + 1) d

def callableNames (p : Program) (d : Decl) (f : Function) (templateArgs : List String) :
    Except Fault CallableNames :=
  callableNamesWith (recordNameAt p maxScopeDepth) p d f templateArgs

def beforeOpening : (depth : Nat) → List Char → Option (List Char)
  | _, [] => none
  | depth, c :: rest =>
    if c = '>' then beforeOpening (depth + 1) rest
    else if c = '<' then
      if depth = 1 then some rest else beforeOpening (depth - 1) rest
    else beforeOpening depth rest

def stripTemplateArgs (name : String) : String :=
  let cs := name.toList.reverse
  if cs.head? = some '>' then
    match beforeOpening 0 cs with
    | some rest => String.ofList rest.reverse
    | none => name
  else name

/-- A selector names every overload by the qualified name, one by the full name, and every
instantiation by the qualified name without template arguments. -/
def selects (selector qualifiedName fullName : String) : Bool :=
  let s := Text.trim selector
  s == qualifiedName || s == fullName || s == stripTemplateArgs qualifiedName

end Lifeline.Naming
