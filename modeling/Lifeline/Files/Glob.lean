import Lifeline.Pattern.Basic

namespace Lifeline

namespace Glob

inductive Token
  | literal (c : Char)
  | one
  | many
  /-- A `**` in front: in any directory. -/
  | anywhere
  /-- A `**` at the end: anything inside. -/
  | inside
  /-- A `**` between slashes: any number of directories. -/
  | between
  | oneOf (negated : Bool) (ranges : List (Char × Char))
  | anyOf (branches : List (List Token))

structure Cursor where
  rest : List Char
  before : Option Char := none
  /-- Brackets stand for themselves after one that is never closed. -/
  plainBrackets : Bool := false

abbrev Scan := StateT Cursor Option

def peek? : Scan (Option Char) := do
  return (← get).rest.head?

def bump : Scan Unit :=
  modify fun c => { c with rest := c.rest.drop 1, before := c.rest.head? }

inductive Members
  | closed (ranges : List (Char × Char)) (rest : List Char)
  | unclosed
  | misordered

def extend (c : Char) : List (Char × Char) → Option (List (Char × Char))
  | (lo, _) :: acc => if lo ≤ c then some ((lo, c) :: acc) else none
  | [] => none

/-- The members of a class up to its closing bracket. A bracket or a hyphen in front stands for
itself, and so does a hyphen at the end; any other hyphen (`opened`) makes a range. -/
def readMembers : (first opened : Bool) → (acc : List (Char × Char)) → List Char → Members
  | _, _, _, [] => .unclosed
  | first, opened, acc, c :: rest =>
    if c = ']' && !first then .closed (if opened then ('-', '-') :: acc else acc) rest
    else if c = '-' && !first && !opened then readMembers false true acc rest
    else if opened then
      match extend c acc with
      | some acc => readMembers false false acc rest
      | none => .misordered
    else readMembers false false ((c, c) :: acc) rest

def readClass : Scan Token := do
  bump
  let cursor ← get
  let (negated, cs) := match cursor.rest with
    | '!' :: rest => (true, rest)
    | '^' :: rest => (true, rest)
    | cs => (false, cs)
  match readMembers true false [] cs with
  | .closed ranges rest =>
    set { cursor with rest, before := some ']' }
    return .oneOf negated ranges
  | .unclosed =>
    set { cursor with plainBrackets := true }
    return .literal '['
  | .misordered => failure

def behindSlash (token : Token) : List Token → List Token
  | .anywhere :: acc => .anywhere :: acc
  | .inside :: acc => .inside :: acc
  | _ :: acc => token :: acc
  | [] => [token]

def opensDouble (inBraces : Bool) : Option Char → Bool
  | some '/' => true
  | some ',' => inBraces
  | some '\x7b' => inBraces
  | _ => false

def readStars (inBraces : Bool) (acc : List Token) : Scan (List Token) := do
  let before := (← get).before
  bump
  if (← peek?) != some '*' then return .many :: acc
  bump
  let next ← peek?
  let plain := .many :: .many :: acc
  if acc.isEmpty then
    if next.all (· == '/') then
      bump
      return [.anywhere]
    else return plain
  else if !opensDouble inBraces before then return plain
  else if next == some '/' then
    bump
    return behindSlash .between acc
  else if next.isNone || (inBraces && (next == some ',' || next == some '\x7d')) then
    return behindSlash .inside acc
  else return plain

mutual

def readTokens : (fuel : Nat) → (inBraces : Bool) → (acc : List Token) → Scan (List Token)
  | 0, _, _ => failure
  | fuel + 1, inBraces, acc => do
    match ← peek? with
    | none => return acc.reverse
    | some '*' => readTokens fuel inBraces (← readStars inBraces acc)
    | some '?' =>
      bump
      readTokens fuel inBraces (.one :: acc)
    | some '\x7b' =>
      bump
      readTokens fuel inBraces (.anyOf (← readBranches fuel) :: acc)
    | some '\x7d' => if inBraces then return acc.reverse else failure
    | some '\\' =>
      bump
      match ← peek? with
      | some c =>
        bump
        readTokens fuel inBraces (.literal c :: acc)
      | none => failure
    | some c =>
      if c == ',' && inBraces then return acc.reverse
      else if c == '[' && !(← get).plainBrackets then
        readTokens fuel inBraces ((← readClass) :: acc)
      else
        bump
        readTokens fuel inBraces (.literal c :: acc)

def readBranches : (fuel : Nat) → Scan (List (List Token))
  | 0 => failure
  | fuel + 1 => do
    let branch ← readTokens fuel true []
    match ← peek? with
    | some ',' =>
      bump
      return branch :: (← readBranches fuel)
    | some '\x7d' =>
      bump
      return [branch]
    | _ => failure

end

def tokens? (glob : List Char) : Option (List Token) :=
  ((readTokens (2 * glob.length + 1) false []).run { rest := glob }).map (·.1)

def slash : Pattern := .char (.single 0x2f)

def anything : Pattern := .rep (.char .all) 0 none

def withinName : CharSet := (CharSet.single 0x2f).compl

def bytesOf (c : Char) : List Nat :=
  c.toString.toUTF8.toList.map UInt8.toNat

def literal (c : Char) : Pattern :=
  (bytesOf c).foldr (fun b p => .seq (.char (.single b)) p) .empty

/-- The bytes of a range. Only the last byte of the lower end and the first one of the upper end
make a range. -/
def rangeBytes (r : Char × Char) : List (Nat × Nat) :=
  let lo := bytesOf r.1
  let hi := bytesOf r.2
  if r.1 = r.2 then lo.map fun b => (b, b)
  else
    lo.dropLast.map (fun b => (b, b)) ++ (lo.getLast?.getD 0, hi.head?.getD 0) :: (hi.drop 1).map
      fun b => (b, b)

def byteSet (negated : Bool) (ranges : List (Char × Char)) : CharSet :=
  let s := CharSet.ofRanges (ranges.flatMap rangeBytes)
  if negated then s.compl else s

def firstOf : List Pattern → Pattern
  | [] => .empty
  | [p] => p
  | p :: ps => .alt p (firstOf ps)

mutual

def Token.pattern? : Token → Option Pattern
  | .literal c => some (Glob.literal c)
  | .one => some (.char withinName)
  | .many => some (.rep (.char withinName) 0 none)
  | .anywhere => some (.alt (.rep slash 0 (some 1)) (.seq anything slash))
  | .inside => some (.seq slash anything)
  | .between => some (.alt slash (.seq slash (.seq anything slash)))
  | .oneOf negated ranges => some (.char (byteSet negated ranges))
  | .anyOf branches =>
    match branchPatterns branches with
    | [] => none
    | ps => some (firstOf ps)

def rowPattern? : List Token → Option Pattern
  | [] => none
  | t :: ts =>
    match t.pattern?, rowPattern? ts with
    | some p, some q => some (.seq p q)
    | some p, none => some p
    | none, q => q

def branchPatterns : List (List Token) → List Pattern
  | [] => []
  | b :: bs => (rowPattern? b).toList ++ branchPatterns bs

end

def pattern? (glob : List Char) : Option Pattern := do
  let body := match ← tokens? glob with
    | [.anywhere] => anything
    | tokens => (rowPattern? tokens).getD .empty
  return .seq (.anchor .textStart) (.seq body (.anchor .textEnd))

end Glob

end Lifeline
