import Lifeline.Pattern.Basic
import Std.Data.HashMap

/-! How large patterns are.

A pattern is put down in as few parts as its written form allows, and its size is the room that
machines for it take which read a text byte by byte, one forwards and one backwards. Patterns that
are too large are refused. -/

namespace Lifeline.Pattern

def isBlank : Pattern → Bool
  | .empty => true
  | .char _ => false
  | .anchor _ => true
  | .seq p q => p.isBlank && q.isBlank
  | .alt p q => p.isBlank && q.isBlank
  | .rep p _ max => max == some 0 || p.isBlank
  | .group p => p.isBlank

def mayBeBlank : Pattern → Bool
  | .empty => true
  | .char s => s.isEmpty
  | .anchor _ => true
  | .seq p q => p.mayBeBlank && q.mayBeBlank
  | .alt p q => p.mayBeBlank || q.mayBeBlank
  | .rep p min _ => min == 0 || p.mayBeBlank
  | .group p => p.mayBeBlank

def repeated (p : Pattern) (min : Nat) (max : Option Nat) : Pattern :=
  let (min, max) :=
    if p.isBlank then (Nat.min min 1, some ((max.map (Nat.min 1)).getD 1)) else (min, max)
  if max == some 0 then .empty
  else if min == 1 && max == some 1 then p
  else .rep p min max

def sequence : List Pattern → Pattern
  | [] => .empty
  | p :: ps =>
    match p, sequence ps with
    | .empty, q => q
    | p, .empty => p
    | p, q => .seq p q

def branches : Pattern → List Pattern
  | .alt p q => p.branches ++ q.branches
  | p => [p]

def charSet? : Pattern → Option CharSet
  | .char s => some s
  | _ => none

def joinedSet? (ps : List Pattern) : Option CharSet := do
  let sets ← ps.mapM charSet?
  if sets.all (·.single?.isSome) || sets.all (·.single?.isNone) then some (.unions sets) else none

def firstOf (ps : List Pattern) : Pattern :=
  match ps.reverse with
  | [] => .char .none
  | last :: before => before.foldl (fun acc p => .alt p acc) last

def steps : Pattern → List Pattern
  | .seq p q => p.steps ++ q.steps
  | .empty => []
  | p => [p]

def isLetter (p : Pattern) : Bool :=
  (p.charSet?.bind CharSet.single?).isSome

def words (p : Pattern) : List Pattern :=
  (p.steps.splitBy fun a b => a.isLetter && b.isLetter).map sequence

def hasGroup : Pattern → Bool
  | .group _ => true
  | .seq p q => p.hasGroup || q.hasGroup
  | .alt p q => p.hasGroup || q.hasGroup
  | .rep p _ _ => p.hasGroup
  | _ => false

def sharedLength : List Pattern → List Pattern → Nat
  | a :: as, b :: bs => if a = b && !a.hasGroup then sharedLength as bs + 1 else 0
  | _, _ => 0

def sharedWords : List (List Pattern) → Nat
  | first :: rest =>
    if rest.isEmpty || (first :: rest).any (·.length < 2) then 0
    else rest.foldl (fun n row => min n (sharedLength first row)) first.length
  | [] => 0

def mergeRows : (fuel : Nat) → List Pattern → Pattern
  | 0, ps => firstOf ps
  | fuel + 1, ps =>
    let ps := ps.flatMap branches
    match joinedSet? ps with
    | some s => .char s
    | none =>
      let rows := ps.map words
      let n := sharedWords rows
      if n = 0 then firstOf ps
      else
        sequence
          (((rows.head?).getD []).take n ++
            [mergeRows fuel (rows.map fun row => sequence (row.drop n))])

def alternatives (ps : List Pattern) : Pattern :=
  mergeRows ((ps.flatMap steps).length + 1) ps

/-- The bytes that a range of code points is made of: a row of ranges for each part of it. `more` is
how many bytes follow the first, which has a mark. -/
def byteRows : (more mark lo hi : Nat) → List (List (Nat × Nat))
  | 0, mark, lo, hi => [[(mark + lo, mark + hi)]]
  | more + 1, mark, lo, hi =>
    let block := 1 <<< (6 * (more + 1))
    let (first, lowRest) := (lo / block, lo % block)
    let (last, highRest) := (hi / block, hi % block)
    let below (a : Nat) (lo hi : Nat) := (byteRows more 0x80 lo hi).map ((mark + a, mark + a) :: ·)
    if first = last then below first lowRest highRest
    else
      let start := if lowRest = 0 then first else first + 1
      let stop := if highRest + 1 = block then last + 1 else last
      let full := List.replicate (more + 1) (0x80, 0xbf)
      (if lowRest = 0 then [] else below first lowRest (block - 1)) ++
        (if start < stop then [(mark + start, mark + stop - 1) :: full] else []) ++
        (if highRest + 1 = block then [] else below last 0 highRest)

def lengths : List (Nat × Nat × Nat × Nat) :=
  [(0, 0, 0, 0x7f), (1, 0xc0, 0x80, 0x7ff), (2, 0xe0, 0x800, 0xd7ff), (2, 0xe0, 0xe000, 0xffff),
    (3, 0xf0, 0x10000, 0x10ffff)]

def rangeRows (r : Nat × Nat) : List (List (Nat × Nat)) :=
  lengths.flatMap fun (more, mark, lo, hi) =>
    let (lo, hi) := (max lo r.1, min hi r.2)
    if lo ≤ hi then byteRows more mark lo hi else []

def setRows (s : CharSet) : List (List (Nat × Nat)) :=
  s.ranges.toList.flatMap rangeRows

abbrev Links := List (Nat × Nat × Nat)

abbrev States := Std.HashMap Links Nat

/-- The state that accepts some rows, made if there is none like it. State 0 is the end. -/
def makeState : (length : Nat) → List (List (Nat × Nat)) → StateM States Nat
  | 0, _ => return 0
  | length + 1, rows => do
    let groups := rows.splitBy fun a b => a.head? == b.head?
    let links ← groups.filterMapM fun group =>
      match group with
      | ((lo, hi) :: _) :: _ => do
        let tails := (group.map List.tail).filter (!·.isEmpty)
        let next ← if tails.isEmpty then pure 0 else makeState length tails
        return some (lo, hi, next)
      | _ => return none
    let states ← get
    match states[links]? with
    | some id => return id
    | none =>
      let id := states.size + 1
      set (states.insert links id)
      return id

def freshRanges : (before : List (Nat × Nat)) → List (List (Nat × Nat)) → Nat
  | _, [] => 0
  | before, row :: rest =>
    let common := ((row.zip before).takeWhile fun (a, b) => a == b).length
    row.length - common + freshRanges row rest

structure Size where
  forward : Nat
  backward : Nat

namespace Size

def state : Nat := 32

def link : Nat := 8

def branch : Nat := 4

def both (n : Nat) : Size := ⟨n, n⟩

def add (a b : Size) : Size := ⟨a.forward + b.forward, a.backward + b.backward⟩

def times (n : Nat) (a : Size) : Size := ⟨n * a.forward, n * a.backward⟩

/-- Backwards, rows share how they start; forwards, also how they end. -/
def ofSet (s : CharSet) : Size :=
  match s.single? with
  | some n => both (state * (Char.ofNat n).utf8Size)
  | none =>
    if s.isBelow 0x80 then both (2 * state + link * s.ranges.size)
    else
      let rows := setRows s
      let states := ((makeState 4 rows).run {}).2
      let links := states.fold (fun n links _ => n + links.length) 0
      ⟨state * (states.size + 1) + link * links,
        state * (freshRanges [] rows + 2) + branch * rows.length⟩

end Size

/-- Fixed texts beside each other, which share how they start. A text that ends closes what was
there before it, since the texts before it come first. -/
inductive TextTree
  | node (closed : List (List (UInt8 × TextTree))) (fresh : List (UInt8 × TextTree))

namespace TextTree

def empty : TextTree := .node [] []

def isLeaf : TextTree → Bool
  | .node closed fresh => closed.all List.isEmpty && fresh.isEmpty

def close (t : TextTree) : TextTree :=
  match t with
  | .node closed fresh => if t.isLeaf && !closed.isEmpty then t else .node (closed ++ [fresh]) []

def change (b : UInt8) (f : TextTree → TextTree) : List (UInt8 × TextTree) → List (UInt8 × TextTree)
  | [] => [(b, f empty)]
  | (c, t) :: rest => if c = b then (c, f t) :: rest else (c, t) :: change b f rest

def add : List UInt8 → TextTree → TextTree
  | [], t => t.close
  | b :: rest, .node closed fresh => .node closed (change b (add rest) fresh)

def ofTexts (texts : List (List UInt8)) : TextTree :=
  texts.foldl (fun t text => add text t) empty

mutual

def size : TextTree → Nat
  | .node closed fresh =>
    let ways :=
      (closed.filter (!·.isEmpty)).length + (if fresh.isEmpty then 0 else 1) + closed.length
    if closed.all List.isEmpty && fresh.isEmpty then 0
    else sizeOfParts closed + sizeOfLinks fresh + Size.state + Size.branch * ways

def sizeOfParts : List (List (UInt8 × TextTree)) → Nat
  | [] => 0
  | links :: rest => sizeOfLinks links + sizeOfParts rest

def sizeOfLinks : List (UInt8 × TextTree) → Nat
  | [] => 0
  | [(_, t)] => Size.state + t.size
  | (_, t) :: (_, s) :: rest =>
    Size.state + Size.link * (rest.length + 2) + (t.size + s.size + sizeOfTrees rest)

def sizeOfTrees : List (UInt8 × TextTree) → Nat
  | [] => 0
  | (_, t) :: rest => t.size + sizeOfTrees rest

end

end TextTree

def fixedBytes? : Pattern → Option (List UInt8)
  | .char s => s.single?.map fun n => (Char.ofNat n).toString.toUTF8.toList
  | .seq p q => do return (← p.fixedBytes?) ++ (← q.fixedBytes?)
  | _ => none

def forkSize (ps : List Pattern) (sizes : Size) : Size :=
  match ps.mapM fixedBytes? with
  | some texts =>
    ⟨Size.state + (TextTree.ofTexts texts).size,
      Size.state + (TextTree.ofTexts (texts.map List.reverse)).size⟩
  | none => sizes.add (.both (2 * Size.state + Size.branch * ps.length))

def repSize (one : Size) (mayBeBlank : Bool) (min : Nat) (max : Option Nat) : Size :=
  let fork := Size.state + 2 * Size.branch
  match min, max with
  | 0, none => one.add (.both (if mayBeBlank then 2 * fork + Size.state else fork))
  | min, none => (one.times min).add (.both fork)
  | min, some max =>
    if min = 0 && max = 1 then one.add (.both (fork + Size.state))
    else if min = max then one.times min
    else
      let start := if min = 0 then Size.state else 0
      ((one.add (.both fork)).times (max - min)).add
        ((one.times min).add (.both (start + Size.state)))

mutual

def size : Pattern → Size
  | .empty => .both Size.state
  | .char s => .ofSet s
  | .anchor _ => .both Size.state
  | .seq p q => p.size.add q.size
  | .alt p q => forkSize (branches (.alt p q)) (p.branchSizes.add q.branchSizes)
  | .rep p min max => repSize p.size p.mayBeBlank min max
  | .group p => p.size.add ⟨2 * Size.state, 0⟩

def branchSizes : Pattern → Size
  | .alt p q => p.branchSizes.add q.branchSizes
  | .empty => .both Size.state
  | .char s => .ofSet s
  | .anchor _ => .both Size.state
  | .seq p q => p.size.add q.size
  | .rep p min max => repSize p.size p.mayBeBlank min max
  | .group p => p.size.add ⟨2 * Size.state, 0⟩

end

def maxSize : Nat := 10 * 1024 * 1024

def frameSize : Nat := 4 * Size.state

def fits (p : Pattern) : Bool :=
  p.size.forward + frameSize ≤ maxSize && p.size.backward + frameSize ≤ maxSize

end Lifeline.Pattern
