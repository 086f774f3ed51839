import Lifeline.Unicode.Lookup

/-! Patterns and where they match. A pattern takes a set of places in a text to the places where it
can end, so no match is ever tried twice. -/

namespace Lifeline

inductive Pattern.WordPlace
  | border
  | noBorder
  | start
  | stop
  | halfStart
  | halfStop
  deriving DecidableEq, Repr

inductive Pattern.Anchor
  | textStart
  | textEnd
  /-- Lines end with line feeds; if `returns` is set, with carriage returns, too, or with both as
  one. -/
  | lineStart (returns : Bool)
  | lineEnd (returns : Bool)
  /-- Words are made of characters of all scripts if `wide` is set, of ASCII characters
  otherwise. -/
  | word (place : Pattern.WordPlace) (wide : Bool)
  deriving DecidableEq, Repr

inductive Pattern
  | empty
  | char (s : CharSet)
  | anchor (a : Pattern.Anchor)
  | seq (p q : Pattern)
  | alt (p q : Pattern)
  | rep (p : Pattern) (min : Nat) (max : Option Nat)
  | group (p : Pattern)
  deriving DecidableEq, Repr

namespace Pattern

def asciiWord : CharSet :=
  .ofRanges [(0x30, 0x39), (0x41, 0x5a), (0x5f, 0x5f), (0x61, 0x7a)]

abbrev Places := List Nat

def Places.union (a b : Places) : Places :=
  a ++ b.filter fun i => !a.contains i

def isWord (wide : Bool) (n : Nat) : Bool :=
  if wide then Unicode.wordChars.contains n else asciiWord.contains n

def wordBefore (wide : Bool) (t : Array Nat) (i : Nat) : Bool :=
  i != 0 && (t[i - 1]?).any (isWord wide)

def wordAfter (wide : Bool) (t : Array Nat) (i : Nat) : Bool :=
  (t[i]?).any (isWord wide)

def WordPlace.holds (before after : Bool) : WordPlace → Bool
  | .border => before != after
  | .noBorder => before == after
  | .start => !before && after
  | .stop => before && !after
  | .halfStart => !before
  | .halfStop => !after

def feed : Nat := 0x0a

def carriageReturn : Nat := 0x0d

def unitBefore? (t : Array Nat) (i : Nat) : Option Nat :=
  if i = 0 then none else t[i - 1]?

def Anchor.holds (t : Array Nat) (i : Nat) : Anchor → Bool
  | .textStart => i == 0
  | .textEnd => i == t.size
  | .lineStart false => i == 0 || unitBefore? t i == some feed
  | .lineStart true =>
    i == 0 || unitBefore? t i == some feed ||
      (unitBefore? t i == some carriageReturn && t[i]? != some feed)
  | .lineEnd false => i == t.size || t[i]? == some feed
  | .lineEnd true =>
    i == t.size || t[i]? == some carriageReturn ||
      (t[i]? == some feed && unitBefore? t i != some carriageReturn)
  | .word place wide => place.holds (wordBefore wide t i) (wordAfter wide t i)

def iterate (step : Places → Places) : Nat → Places → Places
  | 0, s => s
  | n + 1, s =>
    let next := step s
    if next == s then s else iterate step n next

/-- What is reached in at most so many steps, given what is reached already and the newest part of
it. -/
def closure (step : Places → Places) : Nat → (reached newest : Places) → Places
  | 0, reached, _ => reached
  | n + 1, reached, newest =>
    let found := (step newest).filter fun i => !reached.contains i
    if found.isEmpty then reached else closure step n (reached ++ found) found

def ends (t : Array Nat) : Pattern → Places → Places
  | .empty, s => s
  | .char set, s => s.filterMap fun i => if (t[i]?).any set.contains then some (i + 1) else none
  | .anchor a, s => s.filter fun i => a.holds t i
  | .seq p q, s => q.ends t (p.ends t s)
  | .alt p q, s => Places.union (p.ends t s) (q.ends t s)
  | .rep p min max, s =>
    let s := iterate (p.ends t) min s
    let steps := match max with
      | some m => Nat.min (m - min) (t.size + 1)
      | none => t.size + 1
    closure (p.ends t) steps s s
  | .group p, s => p.ends t s

def matchesIn (p : Pattern) (t : Array Nat) : Bool :=
  !(p.ends t (List.range (t.size + 1))).isEmpty

def isMatch (p : Pattern) (text : String) : Bool :=
  p.matchesIn (text.toList.map Char.toNat).toArray

def isByteMatch (p : Pattern) (text : String) : Bool :=
  p.matchesIn (text.toUTF8.toList.map UInt8.toNat).toArray

end Pattern

end Lifeline
