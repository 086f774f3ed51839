namespace Lifeline.Text

abbrev Reader := StateT (List Char) Option

namespace Reader

def peek? : Reader (Option Char) := do
  return (← get).head?

def any : Reader Char := fun
  | [] => none
  | c :: rest => some (c, rest)

def satisfy (p : Char → Bool) : Reader Char := fun
  | [] => none
  | c :: rest => if p c then some (c, rest) else none

def char (c : Char) : Reader Unit := do
  let _ ← satisfy (· == c)

def tryText (t : String) : Reader Bool := fun cs =>
  if t.toList.isPrefixOf cs then some (true, cs.drop t.length) else some (false, cs)

def text (t : String) : Reader Unit := do
  if ← tryText t then return () else failure

def takeWhile (p : Char → Bool) : Reader (List Char) := fun cs =>
  some (cs.takeWhile p, cs.dropWhile p)

def skipWhile (p : Char → Bool) : Reader Unit := fun cs =>
  some ((), cs.dropWhile p)

def takeWhile1 (p : Char → Bool) : Reader (List Char) := do
  let cs ← takeWhile p
  if cs.isEmpty then failure else return cs

def attempt (r : Reader α) : Reader (Option α) := fun cs =>
  match r cs with
  | some (a, rest) => some (some a, rest)
  | none => some (none, cs)

def atEnd : Reader Bool := do
  return (← get).isEmpty

def run? (r : Reader α) (t : List Char) : Option α :=
  match StateT.run r t with
  | some (a, []) => some a
  | _ => none

end Reader

def digit? (base : Nat) (c : Char) : Option Nat :=
  let n := c.toNat
  let d :=
    if '0' ≤ c && c ≤ '9' then some (n - 48)
    else if 'a' ≤ c && c ≤ 'f' then some (n - 87)
    else if 'A' ≤ c && c ≤ 'F' then some (n - 55)
    else none
  d.filter (· < base)

def isDigit (c : Char) : Bool :=
  '0' ≤ c && c ≤ '9'

def isHexDigit (c : Char) : Bool :=
  (digit? 16 c).isSome

def number (base : Nat) (cs : List Char) : Nat :=
  cs.foldl (fun n c => n * base + (digit? base c).getD 0) 0

def scalar? (n : Nat) : Option Char :=
  if n.isValidChar then some (Char.ofNat n) else none

end Lifeline.Text
