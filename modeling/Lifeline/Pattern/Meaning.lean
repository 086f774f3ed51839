import Lifeline.Pattern.Reader
import Lifeline.Pattern.Size
import Lifeline.Unicode.CaseFolding

namespace Lifeline.Pattern

structure Mode where
  anyCase : Bool := false
  multiLine : Bool := false
  dotAll : Bool := false
  unicode : Bool := true
  returns : Bool := false

namespace Mode

def turn (m : Mode) : Switch × Bool → Mode
  | (.anyCase, on) => { m with anyCase := on }
  | (.multiLine, on) => { m with multiLine := on }
  | (.dotAll, on) => { m with dotAll := on }
  | (.unicode, on) => { m with unicode := on }
  | (.returns, on) => { m with returns := on }
  | (.lazyFirst, _) => m
  | (.spaced, _) => m

def apply (m : Mode) (changes : Switches) : Mode :=
  changes.foldl turn m

end Mode

def asciiAnyCase (s : CharSet) : CharSet :=
  let upper := (s.inter (.range 0x61 0x7a)).ranges.toList.map fun (lo, hi) => (lo - 0x20, hi - 0x20)
  let lower := (s.inter (.range 0x41 0x5a)).ranges.toList.map fun (lo, hi) => (lo + 0x20, hi + 0x20)
  .ofRanges (s.ranges.toList ++ upper ++ lower)

def inCase (m : Mode) (s : CharSet) : CharSet :=
  if m.anyCase then if m.unicode then s.anyCase else asciiAnyCase s else s

def complIf (m : Mode) (negated : Bool) (s : CharSet) : Option CharSet :=
  if negated then if m.unicode then some s.compl else none else some s

def isAscii (c : Char) : Bool :=
  c.toNat < 0x80

def Literal.set? (m : Mode) (l : Literal) : Option CharSet :=
  let s := CharSet.single l.char.toNat
  if m.unicode || isAscii l.char then some (inCase m s)
  else if l.asByte then none
  else some s

def Literal.member? (m : Mode) (l : Literal) : Option Nat :=
  if m.unicode || isAscii l.char then some l.char.toNat else none

def asciiDigit : CharSet := .range 0x30 0x39

def asciiWhite : CharSet := .ofRanges [(0x09, 0x0d), (0x20, 0x20)]

def Letter.set (unicode : Bool) : Letter → CharSet
  | .digit => if unicode then Unicode.digits else asciiDigit
  | .white => if unicode then Unicode.white else asciiWhite
  | .word => if unicode then Unicode.wordChars else asciiWord

def letterSet? (m : Mode) (l : Letter) (negated : Bool) : Option CharSet :=
  complIf m negated (l.set m.unicode)

def PropertyForm.base? : PropertyForm → Option CharSet
  | .named name => Unicode.named? name
  | .valued property value => Unicode.valued? property value

def propertySet? (m : Mode) (p : PropertyForm) (negated : Bool) : Option CharSet := do
  if m.unicode then complIf m negated (inCase m (← p.base?)) else none

def SetOp.apply : SetOp → CharSet → CharSet → CharSet
  | .inter => .inter
  | .diff => .diff
  | .symmDiff => .symmDiff

mutual

def ClassForm.set? (m : Mode) : ClassForm → Option CharSet
  | .literal l => do return .single (← l.member? m)
  | .range lo hi => do return .range (← lo.member? m) (← hi.member? m)
  | .letter l negated => letterSet? m l negated
  | .ascii s negated => complIf m negated (inCase m s)
  | .property p negated => propertySet? m p negated
  | .bracket negated inner => do complIf m negated (inCase m (← inner.set? m))
  | .items all => do return .unions (← ClassForm.sets? m all)
  | .combined op
    left right => do return op.apply (inCase m (← left.set? m)) (inCase m (← right.set? m))

def ClassForm.sets? (m : Mode) : List ClassForm → Option (List CharSet)
  | [] => some []
  | c :: cs => do return (← c.set? m) :: (← ClassForm.sets? m cs)

end

def AnchorForm.anchor (m : Mode) : AnchorForm → Anchor
  | .lineStart => if m.multiLine then .lineStart m.returns else .textStart
  | .lineEnd => if m.multiLine then .lineEnd m.returns else .textEnd
  | .textStart => .textStart
  | .textEnd => .textEnd
  | .word place => .word place m.unicode

def dotSet (m : Mode) : CharSet :=
  if m.dotAll then .all
  else if m.returns then (CharSet.ofRanges [(feed, feed), (carriageReturn, carriageReturn)]).compl
  else (CharSet.single feed).compl

/-- Switches hold up to the end of the group, so the mode is handed on. -/
abbrev Taking := StateT Mode Option

mutual

def Form.pattern : Form → Taking Pattern
  | .literal l => do return .char (← liftM (l.set? (← get)))
  | .dot => do
    let m ← get
    if m.unicode then return .char (dotSet m) else failure
  | .anchor a => do return .anchor (a.anchor (← get))
  | .letter l negated => do return .char (← liftM (letterSet? (← get) l negated))
  | .property p negated => do return .char (← liftM (propertySet? (← get) p negated))
  | .bracket negated inner => do
    let m ← get
    let s ← liftM (inner.set? m)
    return .char (← liftM (complIf m negated (inCase m s)))
  | .switches changes => do
    modify (·.apply changes)
    return .empty
  | .group captures changes inner => do
    let outside ← get
    set (outside.apply changes)
    let p ← inner.pattern
    set outside
    return if captures then .group p else p
  | .rep inner min max => do return (← inner.pattern).repeated min max
  | .concat items => do return sequence (← Form.patterns items)
  | .branches all => do return alternatives (← Form.patterns all)

def Form.patterns : List Form → Taking (List Pattern)
  | [] => return []
  | f :: fs => do
    let p ← f.pattern
    return p :: (← Form.patterns fs)

end

def parse? (text : String) : Option Pattern := do
  let form ← Form.parse? text
  let (p, _) ← form.pattern.run {}
  if p.fits then some p else none

def ofElement? (text : String) : Option Pattern :=
  parse? ("^(?:" ++ text ++ ")$")

end Lifeline.Pattern
