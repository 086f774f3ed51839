import Lifeline.Files.Basic
import Lifeline.Files.Ignore

namespace Lifeline.Files

variable {m : Type → Type} [Monad m] [Files m]

def readRules (file : Path) : m IgnoreRules := do
  match ← read file with
  | .ok bytes => return .ofBytes bytes
  | .error _ => return []

def firstLine? (file : Path) : m (Option (List Char)) := do
  match ← read file with
  | .ok bytes => return Text.firstLine? bytes
  | .error _ => return none

def behindWords? (words : String) (line : List Char) : Option Path :=
  if words.toList.isPrefixOf line then some ⟨String.ofList (line.drop words.length)⟩ else none

/-- Where the version control of a directory keeps its files. A file in that place names another
place, where a second file names the one that counts. -/
def controlDir? (dir : Path) : m (Option Path) := do
  let place := dir.join ⟨".git"⟩
  if (← kind? place) != some .file then return some place
  match (← firstLine? place).bind (behindWords? "gitdir: ") with
  | none => return none
  | some linked =>
    match ← firstLine? (linked.join ⟨"commondir"⟩) with
    | none => return none
    | some line =>
      let shared : Path := ⟨String.ofList line⟩
      return some (if line.head? == some '.' then linked.join shared else shared)

def readUntracked (dir : Path) : m IgnoreRules := do
  match ← controlDir? dir with
  | some place => readRules (place.join ⟨"info/exclude"⟩)
  | none => return []

def controlNames : List Path := [⟨".git"⟩, ⟨".jj"⟩]

def hasControl (dir : Path) : m Bool := do
  return (← controlNames.mapM fun name => exists? (dir.join name)).any id

def readLevel (dir : Path) (home : RuleHome) : m IgnoreLevel := do
  return {
    home
    plain := ← readRules (dir.join ⟨".ignore"⟩)
    tracked := ← readRules (dir.join ⟨".gitignore"⟩)
    untracked := ← readUntracked dir
    isTop := ← hasControl dir }

def nameOf? : Path.Component → Option String
  | .name n => some n
  | _ => none

def levelsAbove (dir : Path) : m (List IgnoreLevel) := do
  match ← absolute? dir with
  | none => return []
  | some dir =>
    let names := dir.components.filterMap nameOf?
    (List.range names.length).reverse.mapM fun i =>
      readLevel ⟨"/" ++ "/".intercalate (names.take i)⟩ (.above (names.drop i))

def isDump (p : Path) : Bool :=
  p.extension? == some "json"

def entryOf (dir : Found) (entry : String × EntryKind) : Found where
  path := dir.path.join ⟨entry.1⟩
  names := dir.names ++ [entry.1]
  isDir := entry.2 == .directory

/-- Entries are what the listing says, but dumps have to be there under their path, too. -/
def dumpsAt (inside : Found → ExceptT Fault m (List Path)) (levels : List IgnoreLevel)
    (found : Found) : ExceptT Fault m (List Path) := do
  if IgnoreLevel.leavesOut levels found then return []
  else if found.isDir then inside found
  else if isDump found.path && (← (kind? found.path : m _)) == some .file then return [found.path]
  else return []

def dumpsIn : (room : Nat) → (levels : List IgnoreLevel) → (dir : Found) →
    ExceptT Fault m (List Path)
  | 0, _, _ => return []
  | room + 1, levels, dir => do
    match ← (list dir.path : m _) with
    | .error cause => throw (.walk dir.path cause)
    | .ok entries =>
      let here := (← (readLevel dir.path (.walked dir.path) : m _)) :: levels
      let found ← entries.mapM fun entry => dumpsAt (dumpsIn room here) here (entryOf dir entry)
      return found.flatten

def isTypedIn (p : Path) : Bool :=
  p.components == [.name "-"]

def dumpsBelow (root : Path) : ExceptT Fault m (List Path) := do
  if isTypedIn root then return []
  match ← (kind? root : m _) with
  | none =>
    match ← (list root : m _) with
    | .error cause => throw (.walk root cause)
    | .ok _ => return []
  | some .directory =>
    let dir : Found := { path := root, names := [], isDir := true }
    let found ← dumpsIn Path.maxBytes (← (levelsAbove root : m _)) dir
    return found.mergeSort Path.le
  | some .file => return if isDump root then [root] else []
  | some .other => return []

end Lifeline.Files
