import Lifeline.Files.Basic

namespace Lifeline

inductive Entry
  | file (content : ByteArray)
  | dir (entries : List (String × Entry))

namespace Entry

def kind : Entry → EntryKind
  | .file _ => .file
  | .dir _ => .directory

def get? : List String → Entry → Option Entry
  | [], e => some e
  | _ :: _, .file _ => none
  | name :: place, .dir entries => (entries.lookup name).bind (get? place)

def setIn (name : String) (e : Entry) : List (String × Entry) → List (String × Entry)
  | [] => [(name, e)]
  | (n, old) :: rest => if n = name then (n, e) :: rest else (n, old) :: setIn name e rest

def set (e : Entry) : List String → Entry → Entry
  | [], _ => e
  | name :: place, .file _ => .dir [(name, set e place (.dir []))]
  | name :: place, .dir entries =>
    .dir (setIn name (set e place ((entries.lookup name).getD (.dir []))) entries)

mutual

def files : Entry → List (List String × ByteArray)
  | .file content => [([], content)]
  | .dir entries => filesIn entries

def filesIn : List (String × Entry) → List (List String × ByteArray)
  | [] => []
  | (name, e) :: rest =>
    e.files.map (fun (place, content) => (name :: place, content)) ++ filesIn rest

end

end Entry

structure Volume where
  root : Entry := .dir []
  home : List String := []

namespace Volume

def isTooLong (name : String) : Bool :=
  name.utf8ByteSize ≥ Path.maxNameBytes

def step (v : Volume) (here : List String) (segment : String) : Except IoFault (List String) :=
  match v.root.get? here with
  | some (.dir entries) =>
    if segment = "" || segment = "." then .ok here
    else if segment = ".." then .ok here.dropLast
    else if isTooLong segment then .error .nameTooLong
    else if (entries.lookup segment).isSome then .ok (here ++ [segment])
    else .error .notFound
  | some (.file _) => .error .notDirectory
  | none => .error .notFound

def route (v : Volume) (p : Path) : List String × List String :=
  match p.segments with
  | "" :: rest => ([], rest)
  | segments => (v.home, segments)

def locate (v : Volume) (p : Path) : Except IoFault (List String) := do
  p.check
  let (start, steps) := v.route p
  steps.foldlM v.step start

def at? (v : Volume) (p : Path) : Except IoFault Entry := do
  match v.root.get? (← v.locate p) with
  | some e => return e
  | none => throw .notFound

def kind? (v : Volume) (p : Path) : Option EntryKind :=
  match v.at? p with
  | .ok e => some e.kind
  | .error _ => none

def pathTo (place : List String) : Path :=
  ⟨"/" ++ "/".intercalate place⟩

def read (v : Volume) (p : Path) : Except IoFault ByteArray := do
  match ← v.at? p with
  | .file content => return content
  | .dir _ => throw .isDirectory

def list (v : Volume) (p : Path) : Except IoFault (List (String × EntryKind)) := do
  match ← v.at? p with
  | .file _ => throw .notDirectory
  | .dir entries => return entries.map fun (name, e) => (name, e.kind)

def lastStep (v : Volume) (start steps : List String) :
    Except IoFault (List String × List (String × Entry) × String) := do
  let dir ← steps.dropLast.foldlM v.step start
  match v.root.get? dir with
  | some (.dir entries) => return (dir, entries, steps.getLast?.getD "")
  | some (.file _) => throw .notDirectory
  | none => throw .notFound

def isBuiltIn (name : String) : Bool :=
  name = "" || name = "." || name = ".."

def createDir (v : Volume) (p : Path) : Except IoFault Volume := do
  p.check
  let (start, steps) := v.route p
  let (dir, entries, name) ← v.lastStep start (steps.reverse.dropWhile (· == "")).reverse
  if isBuiltIn name || (entries.lookup name).isSome then throw .exists
  if isTooLong name then throw .nameTooLong
  return { v with root := Entry.set (.dir []) (dir ++ [name]) v.root }

def write (v : Volume) (p : Path) (content : ByteArray) : Except IoFault Volume := do
  p.check
  let (start, steps) := v.route p
  let (dir, entries, name) ← v.lastStep start steps
  if isBuiltIn name then throw .isDirectory
  if isTooLong name then throw .nameTooLong
  match entries.lookup name with
  | some (.dir _) => throw .isDirectory
  | _ => return { v with root := Entry.set (.file content) (dir ++ [name]) v.root }

def homeFiles (v : Volume) : List (List String × ByteArray) :=
  match v.root.get? v.home with
  | some e => e.files
  | none => []

def attempt (change : Volume → Except IoFault Volume) : StateM Volume (Except IoFault Unit) :=
  fun v =>
  match change v with
  | .ok v => (.ok (), v)
  | .error cause => (.error cause, v)

end Volume

instance : Files (StateM Volume) where
  workingDir := do return Volume.pathTo (← get).home
  kind? p := do return (← get).kind? p
  absolute? p := do
    match (← get).locate p with
    | .ok place => return some (Volume.pathTo place)
    | .error _ => return none
  read p := do return (← get).read p
  list p := do return (← get).list p
  createDir p := Volume.attempt (·.createDir p)
  write p text := Volume.attempt (·.write p text.toUTF8)

end Lifeline
