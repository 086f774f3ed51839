namespace Lifeline

structure Path where
  text : String
  deriving DecidableEq, Repr, Inhabited

namespace Path

inductive Component
  | root
  | current
  | parent
  | name (text : String)
  deriving DecidableEq, Repr

def segments (p : Path) : List String :=
  (p.text.toList.splitOn '/').map String.ofList

def Component.ofSegment : String → Component
  | "." => .current
  | ".." => .parent
  | s => .name s

/-- Repeated and trailing slashes vanish, and so does a `.` anywhere but at the very start. -/
def components (p : Path) : List Component :=
  match p.segments with
  | [] => []
  | first :: rest =>
    let later := (rest.filter fun s => s != "" && s != ".").map Component.ofSegment
    if first == "" then
      if rest.isEmpty then [] else .root :: later
    else .ofSegment first :: later

def same (p q : Path) : Bool :=
  p.components == q.components

def startsWith (p base : Path) : Bool :=
  base.components.isPrefixOf p.components

def endsWith (p tail : Path) : Bool :=
  tail.components.isSuffixOf p.components

def below? (p base : Path) : Option (List Component) :=
  if p.startsWith base then some (p.components.drop base.components.length) else none

def Component.text : Component → String
  | .root => ""
  | .current => "."
  | .parent => ".."
  | .name s => s

def ofComponents : List Component → Path
  | [.root] => ⟨"/"⟩
  | cs => ⟨"/".intercalate (cs.map Component.text)⟩

def ancestry (p : Path) : List Path :=
  let cs := p.components
  p :: (List.range cs.length).reverse.filterMap fun n =>
    if n = 0 then none else some (ofComponents (cs.take n))

def join (base p : Path) : Path :=
  if p.text.startsWith "/" then p
  else if base.text == "" || base.text.endsWith "/" then ⟨base.text ++ p.text⟩
  else ⟨base.text ++ "/" ++ p.text⟩

def fileName? (p : Path) : Option String :=
  match p.components.getLast? with
  | some (.name s) => some s
  | _ => none

def extension? (p : Path) : Option String := do
  let name ← p.fileName?
  let cs := name.toList.reverse
  let ext := cs.takeWhile (· != '.')
  let stem := (cs.dropWhile (· != '.')).drop 1
  if stem.isEmpty then none else some (String.ofList ext.reverse)

end Path

def Path.Component.rank : Path.Component → Nat
  | .root => 0
  | .current => 1
  | .parent => 2
  | .name _ => 3

def Path.Component.le : Path.Component → Path.Component → Bool
  | .name a, .name b => a ≤ b
  | a, b => a.rank ≤ b.rank

def Path.leComponents : List Path.Component → List Path.Component → Bool
  | [], _ => true
  | _ :: _, [] => false
  | a :: as, b :: bs => if a == b then leComponents as bs else a.le b

def Path.le (p q : Path) : Bool :=
  Path.leComponents p.components q.components

end Lifeline
