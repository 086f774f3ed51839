import Lifeline.Text.Reader

namespace Lifeline

/-- Closed ranges in ascending order, no two of which touch. -/
structure CharSet where
  ranges : Array (Nat × Nat)
  deriving DecidableEq, Repr, Inhabited

namespace CharSet

def maxPoint : Nat := 0x10ffff

def none : CharSet := ⟨#[]⟩

def range (lo hi : Nat) : CharSet := ⟨#[(lo, hi)]⟩

def single (n : Nat) : CharSet := range n n

def all : CharSet := range 0 maxPoint

def joinRanges (lo hi : Nat) : List (Nat × Nat) → List (Nat × Nat)
  | [] => [(lo, hi)]
  | (lo', hi') :: rest =>
    if lo' ≤ hi + 1 then joinRanges lo (max hi hi') rest else (lo, hi) :: joinRanges lo' hi' rest

def ofRanges (rs : List (Nat × Nat)) : CharSet :=
  match rs.mergeSort fun a b => a.1 ≤ b.1 with
  | [] => none
  | (lo, hi) :: rest => ⟨(joinRanges lo hi rest).toArray⟩

def union (a b : CharSet) : CharSet :=
  ofRanges (a.ranges.toList ++ b.ranges.toList)

def unions (sets : List CharSet) : CharSet :=
  ofRanges (sets.flatMap fun s => s.ranges.toList)

def gaps (start : Nat) : List (Nat × Nat) → List (Nat × Nat)
  | [] => if start ≤ maxPoint then [(start, maxPoint)] else []
  | (lo, hi) :: rest =>
    if start < lo then (start, lo - 1) :: gaps (hi + 1) rest else gaps (hi + 1) rest

def trim (r : Nat × Nat) : Option (Nat × Nat) :=
  let isSurrogate (n : Nat) := 0xd800 ≤ n && n ≤ 0xdfff
  let lo := if isSurrogate r.1 then 0xe000 else r.1
  let hi := if isSurrogate r.2 then 0xd7ff else r.2
  if lo ≤ hi then some (lo, hi) else .none

def compl (s : CharSet) : CharSet :=
  ⟨((gaps 0 s.ranges.toList).filterMap trim).toArray⟩

def inter (a b : CharSet) : CharSet :=
  (a.compl.union b.compl).compl

def diff (a b : CharSet) : CharSet :=
  a.inter b.compl

def symmDiff (a b : CharSet) : CharSet :=
  (a.diff b).union (b.diff a)

def search (ranges : Array (Nat × Nat)) (n : Nat) : (halvings first last : Nat) → Bool
  | 0, _, _ => false
  | halvings + 1, first, last =>
    if first < last then
      let middle := (first + last) / 2
      match ranges[middle]? with
      | some (lo, hi) =>
        if n < lo then search ranges n halvings first middle
        else if hi < n then search ranges n halvings (middle + 1) last
        else true
      | .none => false
    else false

/-- There are fewer ranges than code points, so 21 halvings leave nothing. -/
def contains (s : CharSet) (n : Nat) : Bool :=
  search s.ranges n 22 0 s.ranges.size

def isEmpty (s : CharSet) : Bool :=
  s.ranges.isEmpty

def single? (s : CharSet) : Option Nat :=
  match s.ranges.toList with
  | [(lo, hi)] => if lo = hi then some lo else .none
  | _ => .none

def isBelow (s : CharSet) (bound : Nat) : Bool :=
  s.ranges.all fun r => r.2 < bound

/-- Ranges from gaps and extents in turn: how many points are left out, and how many follow the next
one. -/
def place (start : Nat) : List Nat → List (Nat × Nat)
  | gap :: extent :: rest =>
    let lo := start + gap
    (lo, lo + extent) :: place (lo + extent + 1) rest
  | _ => []

def ofText (lines : List String) : CharSet :=
  ⟨(place 0 ((lines.flatMap (·.splitOn " ")).map fun w => Text.number 16 w.toList)).toArray⟩

end CharSet

structure Unicode.NamedSet where
  names : List String
  text : List String

namespace Unicode

def NamedSet.set (s : NamedSet) : CharSet :=
  .ofText s.text

def find? (sets : List NamedSet) (name : String) : Option CharSet :=
  (sets.find? (·.names.contains name)).map NamedSet.set

end Unicode

end Lifeline
