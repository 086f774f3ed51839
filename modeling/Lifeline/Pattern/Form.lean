import Lifeline.Pattern.Basic

namespace Lifeline.Pattern

inductive Switch
  | anyCase
  | multiLine
  | dotAll
  | lazyFirst
  | unicode
  | returns
  | spaced
  deriving DecidableEq, Repr

def Switch.ofLetter? : Char → Option Switch
  | 'i' => some .anyCase
  | 'm' => some .multiLine
  | 's' => some .dotAll
  | 'U' => some .lazyFirst
  | 'u' => some .unicode
  | 'R' => some .returns
  | 'x' => some .spaced
  | _ => none

abbrev Switches := List (Switch × Bool)

structure Literal where
  char : Char
  asByte : Bool := false

inductive Letter
  | digit
  | white
  | word
  deriving DecidableEq, Repr

inductive PropertyForm
  | named (name : String)
  | valued (property value : String)

inductive SetOp
  | inter
  | diff
  | symmDiff
  deriving DecidableEq, Repr

inductive ClassForm
  | literal (l : Literal)
  | range (lo hi : Literal)
  | letter (l : Letter) (negated : Bool)
  | ascii (set : CharSet) (negated : Bool)
  | property (p : PropertyForm) (negated : Bool)
  | bracket (negated : Bool) (inner : ClassForm)
  | items (all : List ClassForm)
  | combined (op : SetOp) (left right : ClassForm)

inductive AnchorForm
  | lineStart
  | lineEnd
  | textStart
  | textEnd
  | word (place : WordPlace)

inductive Form
  | literal (l : Literal)
  | dot
  | anchor (a : AnchorForm)
  | letter (l : Letter) (negated : Bool)
  | property (p : PropertyForm) (negated : Bool)
  | bracket (negated : Bool) (inner : ClassForm)
  | switches (changes : Switches)
  | group (captures : Bool) (changes : Switches) (inner : Form)
  | rep (inner : Form) (min : Nat) (max : Option Nat)
  | concat (items : List Form)
  | branches (all : List Form)

def ClassForm.ofItems : List ClassForm → ClassForm
  | [c] => c
  | cs => .items cs

def Form.ofItems : List Form → Form
  | [f] => f
  | fs => .concat fs

def Form.ofBranches : List Form → Form
  | [f] => f
  | fs => .branches fs

mutual

def ClassForm.depth : ClassForm → Nat
  | .bracket _ inner => inner.depth + 1
  | .items [] => 0
  | .items (c :: cs) => max c.depth (ClassForm.depthList cs) + 1
  | .combined _ left right => max left.depth right.depth + 1
  | _ => 0

def ClassForm.depthList : List ClassForm → Nat
  | [] => 0
  | c :: cs => max c.depth (ClassForm.depthList cs)

end

mutual

def Form.depth : Form → Nat
  | .bracket _ inner => inner.depth + 1
  | .group _ _ inner => inner.depth + 1
  | .rep inner _ _ => inner.depth + 1
  | .concat [] => 0
  | .concat (f :: fs) => max f.depth (Form.depthList fs) + 1
  | .branches [] => 0
  | .branches (f :: fs) => max f.depth (Form.depthList fs) + 1
  | _ => 0

def Form.depthList : List Form → Nat
  | [] => 0
  | f :: fs => max f.depth (Form.depthList fs)

end

end Lifeline.Pattern
